import Bnl.Laws.Qpack

/-!
# What the QPACK encoder writes

An instruction is what the encoder decides on for a header, and `Instruction.header` what it stands for under
the static table. The encoder writes it into memory, piece by piece: the list `Instruction.bytes`. Where both
strings have short codes, the decoder's parser reads it back. A header survives the trip through the instruction
when the lookup by hash was right about it.

**The laws** are three, for the three parts of the way. `encodeInstruction_eq` and `Instruction.write_eq`: what
is written is the instruction, for a header of any bytes. `line_bytes`: an instruction is read as the header it
stands for. `substitutes_nothing_iff`: the instruction stands for the header, exactly where neither of its
strings has the hash of a string of the table without being it.

The last is about the published hash, and its condition is one on the header and the table: `NoCollision`
mentions no function of the encoder. There are headers it excludes, and one is given. For any other hash
`Faithful` says the same by the lookup's answers.
-/

namespace Bnl.Http3.Qpack

open Incremental Bnl.Base Bytes Table.Fixed

/-- A line of a header block. -/
inductive Instruction where
  | indexed (index : UInt8)
  | nameReference (index : UInt8) (value : List UInt8)
  | literal (name value : List UInt8)
  deriving DecidableEq, Repr

/-- What the encoder decides on. -/
def instruction (hash : List UInt8 → UInt64) (header : Header) : Instruction :=
  match findIndex hash header with
  | (.headerValue, index) => .indexed index
  | (.headerOnly, index) => .nameReference index header.value
  | (.missing, _) => .literal header.name header.value

namespace Instruction

/-- What an instruction stands for. -/
def header : Instruction → Option Header
  | .indexed index => entry index.toNat
  | .nameReference index value => (entry index.toNat).map fun e => ⟨e.name, value⟩
  | .literal name value => some ⟨name, value⟩

/-- An instruction written at `dest`: where it ends, and the memory. -/
def write (m : Memory) (dest : Nat) : Instruction → Nat × Memory
  | .indexed index =>
    let (n, m) := PrefixInt.encode (m.set dest indexedHeaderFieldPrefix) dest index.toUInt64 6
    (dest + n, m)
  | .nameReference index value =>
    let (n, m) :=
      PrefixInt.encode (m.set dest Qpack.literalWithNameReferencePrefix) dest index.toUInt64 4
    let (k, m) := Literal.encode (m.set (dest + n) literalNoPrefix) (dest + n) value 7
    (dest + n + k, m)
  | .literal name value =>
    let (n, m) :=
      Literal.encode (m.set dest Qpack.literalWithoutNameReferencePrefix) dest name 3
    let (k, m) := Literal.encode (m.set (dest + n) literalNoPrefix) (dest + n) value 7
    (dest + n + k, m)

/-- The bytes of an instruction. -/
def bytes : Instruction → List UInt8
  | .indexed index => PrefixInt.bytes indexedHeaderFieldPrefix index.toUInt64 6
  | .nameReference index value =>
    PrefixInt.bytes Qpack.literalWithNameReferencePrefix index.toUInt64 4 ++
      Literal.bytes literalNoPrefix value 7
  | .literal name value =>
    Literal.bytes Qpack.literalWithoutNameReferencePrefix name 3 ++
      Literal.bytes literalNoPrefix value 7

end Instruction

/-- **The encoder writes the instruction it decided on**, whatever the bytes of the header. -/
theorem encodeInstruction_eq (host : Host) (m : Memory) (dest : Nat) (header : Header) :
    Encoder.encodeInstruction host m dest header =
      (instruction host.xxh64 header).write m dest := by
  unfold Encoder.encodeInstruction instruction
  rcases findIndex host.xxh64 header with ⟨_ | _ | _, index⟩ <;> rfl

/-- Both strings of a header have codes of at most 15 bits and fewer than 2^32 bytes. -/
structure Encodable (header : Header) : Prop where
  name_short : Huffman.Short header.name
  value_short : Huffman.Short header.value
  name_lt : header.name.length < 2 ^ 32
  value_lt : header.value.length < 2 ^ 32

/-- The four conditions, in pairs. -/
theorem encodable_iff {header : Header} : Encodable header ↔
    (Huffman.Short header.name ∧ Huffman.Short header.value) ∧
      header.name.length < 2 ^ 32 ∧ header.value.length < 2 ^ 32 :=
  ⟨fun h => ⟨⟨h.name_short, h.value_short⟩, h.name_lt, h.value_lt⟩,
    fun h => ⟨h.1.1, h.1.2, h.2.1, h.2.2⟩⟩

instance (header : Header) : Decidable (Encodable header) :=
  decidable_of_iff _ encodable_iff.symm

/-- The strings of an instruction are. -/
def Instruction.Encodable : Instruction → Prop
  | .indexed _ => True
  | .nameReference _ value => Huffman.Short value ∧ value.length < 2 ^ 32
  | .literal name value => Qpack.Encodable ⟨name, value⟩

/-- The instruction of such a header has such strings. -/
theorem Encodable.instruction {header : Header} (h : Encodable header)
    (hash : List UInt8 → UInt64) : (instruction hash header).Encodable := by
  unfold Qpack.instruction
  rcases findIndex hash header with ⟨_ | _ | _, index⟩
  · trivial
  · exact ⟨h.value_short, h.value_lt⟩
  · exact h

/-- The instruction is written from where it begins, and no further. -/
theorem Instruction.write_eq (i : Instruction) (m : Memory) (dest : Nat) :
    i.write m dest = (dest + i.bytes.length, m.store dest i.bytes) := by
  cases i with
  | indexed index =>
    rw [write, bytes, PrefixInt.encode_eq, Memory.get_set_self]
    dsimp only
    rw [PrefixInt.set_store]
  | nameReference index value =>
    rw [write, bytes, PrefixInt.encode_eq, Memory.get_set_self]
    dsimp only
    rw [Literal.encode_eq, Memory.get_set_self]
    dsimp only
    rw [PrefixInt.set_store, List.length_append, Nat.add_assoc, Memory.store_append,
      Literal.set_store]
  | literal name value =>
    rw [write, bytes, Literal.encode_eq, Memory.get_set_self]
    dsimp only
    rw [Literal.encode_eq, Memory.get_set_self]
    dsimp only
    rw [Literal.set_store, List.length_append, Nat.add_assoc, Memory.store_append,
      Literal.set_store]

/-- Every instruction has a byte. -/
theorem Instruction.bytes_ne_nil (i : Instruction) : i.bytes ≠ [] := by
  cases i with
  | indexed index => exact PrefixInt.bytes_ne_nil _ _ _
  | nameReference index value =>
    exact List.append_ne_nil_of_left_ne_nil (PrefixInt.bytes_ne_nil _ _ _) _
  | literal name value => exact List.append_ne_nil_of_left_ne_nil (Literal.bytes_ne_nil _ _ _) _

/-! ## Reading an instruction back -/

/-- What the bits in front of the prefix say. -/
theorem findType_written : ∀ b : UInt8,
    (b &&& ~~~(PrefixInt.prefixMax 6) = 0xc0 → findType b = .headerValue ∧ b &&& 0x40 ≠ 0) ∧
    (b &&& ~~~(PrefixInt.prefixMax 4) = 0x50 → findType b = .headerOnly ∧ b &&& 0x10 ≠ 0) ∧
    (b &&& ~~~(PrefixInt.prefixMax 3) = 0x20 ∨ b &&& ~~~(PrefixInt.prefixMax 3) = 0x28 →
      findType b = .missing) := forall_byte (by decide +kernel)

/-- An index for a whole header. -/
theorem findType_indexed (b : UInt8) (h : b &&& ~~~(PrefixInt.prefixMax 6) = 0xc0) :
    findType b = .headerValue ∧ b &&& 0x40 ≠ 0 := (findType_written b).1 h

/-- An index for a name. -/
theorem findType_nameReference (b : UInt8) (h : b &&& ~~~(PrefixInt.prefixMax 4) = 0x50) :
    findType b = .headerOnly ∧ b &&& 0x10 ≠ 0 := (findType_written b).2.1 h

/-- No index, with either value of the flag. -/
theorem findType_literal (b : UInt8) (h : b &&& ~~~(PrefixInt.prefixMax 3) = 0x20 ∨
    b &&& ~~~(PrefixInt.prefixMax 3) = 0x28) : findType b = .missing := (findType_written b).2.2 h

/-- A line goes by its first byte. -/
theorem line_cons {byte : UInt8} {b : List UInt8} (tl : List UInt8) (h : b = byte :: tl) :
    line b = lineParser byte b := by
  rw [h]
  rfl

/-- The index of a table entry is read back, whatever is above the prefix. -/
theorem parser_index (first index width : UInt8) (rest : List UInt8) :
    PrefixInt.parser width (PrefixInt.bytes first index.toUInt64 width ++ rest) =
      .ok (index.toUInt64, rest) := by
  refine PrefixInt.parser_bytes (Nat.lt_add_right _ ?_) rest
  have := index.toNat_lt
  rw [UInt8.toNat_toUInt64]
  omega

/-- The value is read back. -/
theorem parser_value {value : List UInt8} (hs : Huffman.Short value)
    (hlen : value.length < 2 ^ 32) (rest : List UInt8) :
    Literal.parser 7 (Literal.bytes literalNoPrefix value 7 ++ rest) = .ok (value, rest) :=
  Literal.parser_bytes hs hlen (by decide) (by decide) rest

/-- **The decoder reads an instruction as the header it stands for**: an index that stands for a
whole header with a value, a name by index, or a name and a value. -/
theorem line_bytes {i : Instruction} {h : Header} (hi : i.Encodable) (hd : i.header = some h)
    (hlow : headerIsLowercase h = true) (hval : ∀ index, i = .indexed index → h.value ≠ [])
    (rest : List UInt8) : line (i.bytes ++ rest) = .ok (h, rest) := by
  cases i with
  | indexed index =>
    obtain ⟨byte, tl, hb, hm⟩ :=
      PrefixInt.bytes_head indexedHeaderFieldPrefix index.toUInt64 6
    obtain ⟨htype, hs⟩ := findType_indexed byte hm
    have hfind : findHeaderValue index = some h := findHeaderValue_eq_some.mpr ⟨hd, hval index rfl⟩
    rw [Instruction.bytes, line_cons (tl ++ rest) (by rw [hb]; rfl), lineParser, htype]
    dsimp only
    rw [if_neg hs, Parser.bind_ok (parser_index _ index 6 rest), UInt8.toUInt8_toUInt64, hfind]
    rfl
  | nameReference index value =>
    obtain ⟨byte, tl, hb, hm⟩ :=
      PrefixInt.bytes_head Qpack.literalWithNameReferencePrefix index.toUInt64 4
    obtain ⟨htype, hs⟩ := findType_nameReference byte hm
    obtain ⟨e, he, rfl⟩ := Option.map_eq_some_iff.mp hd
    have hfind : findHeaderOnly index = some e.name := findHeaderOnly_eq_some.mpr ⟨e, he, rfl⟩
    rw [Instruction.bytes, List.append_assoc,
      line_cons (tl ++ (Literal.bytes literalNoPrefix value 7 ++ rest)) (by rw [hb]; rfl),
      lineParser, htype]
    dsimp only
    rw [if_neg hs, Parser.bind_ok (parser_index _ index 4 _), UInt8.toUInt8_toUInt64, hfind]
    exact Parser.bind_ok (parser_value hi.1 hi.2 rest)
  | literal name value =>
    obtain ⟨byte, tl, hb, hm⟩ :=
      Literal.bytes_head Qpack.literalWithoutNameReferencePrefix name 3
    have htype := findType_literal byte hm
    cases hd
    rw [Instruction.bytes, List.append_assoc,
      line_cons (tl ++ (Literal.bytes literalNoPrefix value 7 ++ rest)) (by rw [hb]; rfl),
      lineParser, htype]
    dsimp only
    rw [Parser.bind_ok (Literal.parser_bytes hi.name_short hi.name_lt (by decide) (by decide) _),
      Parser.bind_ok (parser_value hi.value_short hi.value_lt rest), if_pos hlow]
    rfl

/-! ## The lookup -/

/-- The lookup is right about a header: it answers an index only for the entry there. -/
structure Faithful (hash : List UInt8 → UInt64) (header : Header) : Prop where
  headerValue : ∀ i, findIndex hash header = (.headerValue, i) → entry i.toNat = some header
  headerOnly : ∀ i, findIndex hash header = (.headerOnly, i) →
    ∃ e, entry i.toNat = some e ∧ e.name = header.name

/-- By the answer there is. -/
theorem faithful_iff {hash : List UInt8 → UInt64} {header : Header} : Faithful hash header ↔
    match findIndex hash header with
    | (.headerValue, i) => entry i.toNat = some header
    | (.headerOnly, i) => (entry i.toNat).map Header.name = some header.name
    | (.missing, _) => True := by
  constructor
  · intro h
    match hf : findIndex hash header with
    | (.headerValue, i) => exact h.headerValue i hf
    | (.headerOnly, i) => exact Option.map_eq_some_iff.mpr (h.headerOnly i hf)
    | (.missing, _) => trivial
  · intro h
    match hf : findIndex hash header with
    | (.headerValue, i) =>
      rw [hf] at h
      refine ⟨fun j hj => ?_, fun j hj => ?_⟩
      · cases hf.symm.trans hj
        exact h
      · cases hf.symm.trans hj
    | (.headerOnly, i) =>
      rw [hf] at h
      refine ⟨fun j hj => ?_, fun j hj => ?_⟩
      · cases hf.symm.trans hj
      · cases hf.symm.trans hj
        exact Option.map_eq_some_iff.mp h
    | (.missing, _) =>
      refine ⟨fun j hj => ?_, fun j hj => ?_⟩ <;> cases hf.symm.trans hj

instance (hash : List UInt8 → UInt64) (header : Header) : Decidable (Faithful hash header) :=
  @decidable_of_iff _ _ faithful_iff.symm <|
    match findIndex hash header with
    | (.headerValue, i) => inferInstanceAs (Decidable (entry i.toNat = some header))
    | (.headerOnly, i) =>
      inferInstanceAs (Decidable ((entry i.toNat).map Header.name = some header.name))
    | (.missing, _) => inferInstanceAs (Decidable True)

/-- Then the instruction stands for the header. -/
theorem Faithful.instruction {hash : List UInt8 → UInt64} {header : Header}
    (h : Faithful hash header) : (instruction hash header).header = some header := by
  unfold Qpack.instruction
  match hf : findIndex hash header with
  | (.headerValue, i) => exact h.headerValue i hf
  | (.headerOnly, i) =>
    obtain ⟨e, he, hn⟩ := h.headerOnly i hf
    show (entry i.toNat).map (fun e => (⟨e.name, header.value⟩ : Header)) = some header
    rw [he, Option.map_some, hn]
  | (.missing, _) => rfl

/-- Only headers with a value are answered whole. -/
theorem Faithful.value_ne {hash : List UInt8 → UInt64} {header : Header}
    (h : Faithful hash header) {index : UInt8} (hi : Qpack.instruction hash header = .indexed index) :
    header.value ≠ [] := by
  unfold Qpack.instruction at hi
  match hf : findIndex hash header with
  | (.headerValue, i) =>
    obtain ⟨e, he, hne, -⟩ := findIndex_headerValue hf
    rw [h.headerValue i hf] at he
    cases he
    exact hne
  | (.headerOnly, i) =>
    rw [hf] at hi
    cases hi
  | (.missing, i) =>
    rw [hf] at hi
    cases hi

/-! ## Collisions -/

/-- No static name has the hash of the header's name without being it, and no static value under
that name the hash of its value without being it. -/
def NoCollision (header : Header) : Prop :=
  ∀ i e, entry i = some e → Xxh64.xxh64 e.name = Xxh64.xxh64 header.name →
    e.name = header.name ∧
      (e.value ≠ [] → Xxh64.xxh64 e.value = Xxh64.xxh64 header.value → e.value = header.value)

/-- Without a collision the lookup is right. -/
theorem NoCollision.faithful {header : Header} (h : NoCollision header) :
    Faithful Xxh64.xxh64 header := by
  constructor
  · intro i hf
    obtain ⟨e, he, hne, hname, hvalue⟩ := findIndex_headerValue hf
    obtain ⟨hn, hv⟩ := h _ e he hname
    rw [he, Option.some.injEq]
    exact Header.ext hn (hv hne hvalue)
  · intro i hf
    obtain ⟨e, he, hname⟩ := findIndex_headerOnly hf
    exact ⟨e, he, (h _ e he hname).1⟩

/-- Where a name has a static name's hash, the lookup answers an index of that name; where the
value has a static value's hash under it, the index of that entry. -/
theorem findIndex_of_entry {i : Nat} {e header : Header} (he : entry i = some e)
    (hname : Xxh64.xxh64 e.name = Xxh64.xxh64 header.name) :
    (∃ t j e', findIndex Xxh64.xxh64 header = (t, j) ∧ t ≠ .missing ∧
      entry j.toNat = some e' ∧ e'.name = e.name) ∧
    (e.value ≠ [] → Xxh64.xxh64 e.value = Xxh64.xxh64 header.value →
      ∃ j, j.toNat = i ∧ findIndex Xxh64.xxh64 header = (.headerValue, j)) := by
  obtain ⟨c, hc, hhash, honly, hvalue⟩ := exists_case he
  have hfind := findIndex_of_case hc (hhash.symm.trans hname)
  obtain ⟨d, hd, hdn⟩ := Option.map_eq_some_iff.mp honly
  constructor
  · cases hv : c.values.find? fun v => v.1 == Xxh64.xxh64 header.value with
    | none =>
      rw [hv] at hfind
      exact ⟨_, _, d, hfind, nofun, hd, hdn⟩
    | some v =>
      rw [hv] at hfind
      obtain ⟨d', hd', -, hvalues, -⟩ := case_only hc
      rw [hd] at hd'
      cases hd'
      obtain ⟨e', he', hn', -, -⟩ := of_valueAgrees (hvalues v (List.mem_of_find?_eq_some hv))
      exact ⟨_, _, e', hfind, nofun, he', hn'.trans hdn⟩
  · intro hne hvh
    obtain ⟨v, hv, hi, hh⟩ := hvalue hne
    have hfv : (c.values.find? fun v => v.1 == Xxh64.xxh64 header.value) = some v := by
      rw [← hvh, hh]
      exact find_of_nodup (nameCases_valueHashes c hc) hv
    rw [hfv] at hfind
    exact ⟨v.2, hi, hfind⟩

/-- **When the encoder never substitutes a header.** For a header of any bytes: what the lookup by
hash answers stands for that header, and so does the instruction written, if and only if neither
its name nor its value collides with a string of the static table. -/
theorem substitutes_nothing_iff (header : Header) :
    ((∀ i, findIndex Xxh64.xxh64 header = (.headerValue, i) → findHeaderValue i = some header) ∧
      (∀ i, findIndex Xxh64.xxh64 header = (.headerOnly, i) →
        findHeaderOnly i = some header.name) ∧
      ∀ storage m dest, Encoder.encodeInstruction ⟨Xxh64.xxh64, storage⟩ m dest header =
        (instruction Xxh64.xxh64 header).write m dest ∧
          (instruction Xxh64.xxh64 header).header = some header) ↔
      NoCollision header := by
  constructor
  · rintro ⟨hvalue, honly, -⟩ i e he hname
    obtain ⟨⟨t, j, e', hfind, ht, he', hn'⟩, hwhole⟩ := findIndex_of_entry he hname
    refine ⟨?_, fun hne hvh => ?_⟩
    · cases t with
      | headerValue =>
        have hentry := (findHeaderValue_eq_some.mp (hvalue j hfind)).1
        rw [he'] at hentry
        cases hentry
        exact hn'.symm
      | headerOnly =>
        obtain ⟨d, hd, hdn⟩ := findHeaderOnly_eq_some.mp (honly j hfind)
        rw [he'] at hd
        cases hd
        exact hn'.symm.trans hdn
      | missing => exact absurd rfl ht
    · obtain ⟨k, rfl, hk⟩ := hwhole hne hvh
      have hentry := (findHeaderValue_eq_some.mp (hvalue k hk)).1
      rw [he] at hentry
      cases hentry
      rfl
  · intro h
    have hf := h.faithful
    refine ⟨fun i hi => ?_, fun i hi => ?_, fun storage m dest => ?_⟩
    · obtain ⟨e, he, hne, -, -⟩ := findIndex_headerValue hi
      have hentry := hf.headerValue i hi
      rw [he] at hentry
      cases hentry
      exact findHeaderValue_eq_some.mpr ⟨he, hne⟩
    · exact findHeaderOnly_eq_some.mpr (hf.headerOnly i hi)
    · exact ⟨encodeInstruction_eq _ _ _ _, hf.instruction⟩

/-- Eight bytes with the hash of `GET`. -/
def getCollision : List UInt8 := [93, 50, 242, 83, 244, 126, 176, 40]

/-- A method of these bytes is encoded as the index of `GET`. -/
theorem substitutes_get :
    findIndex Xxh64.xxh64 ⟨ascii ":method", getCollision⟩ = (.headerValue, 17) ∧
      findHeaderValue 17 = some ⟨ascii ":method", ascii "GET"⟩ ∧
      ¬ ((∀ i, findIndex Xxh64.xxh64 ⟨ascii ":method", getCollision⟩ = (.headerValue, i) →
          findHeaderValue i = some ⟨ascii ":method", getCollision⟩) ∧
        (∀ i, findIndex Xxh64.xxh64 ⟨ascii ":method", getCollision⟩ = (.headerOnly, i) →
          findHeaderOnly i = some (ascii ":method"))) := by
  have hfind : findIndex Xxh64.xxh64 ⟨ascii ":method", getCollision⟩ = (.headerValue, 17) := by
    decide
  have hget : findHeaderValue 17 = some ⟨ascii ":method", ascii "GET"⟩ := by decide
  refine ⟨hfind, hget, fun h => ?_⟩
  have heq := h.1 17 hfind
  rw [hget] at heq
  exact absurd heq (by decide)

end Bnl.Http3.Qpack
