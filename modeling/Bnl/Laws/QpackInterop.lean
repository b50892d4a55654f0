import Bnl.App.QpackInterop
import Bnl.Laws.HeaderBlock

/-!
# What the two programs make of a text

A text says a list of blocks: the headers of its lines, up to an empty line. The encoder writes the blocks, and
the decoder writes the text of what it reads. Of what the text said besides, comments and empty lines, nothing
comes back, so that the text that does come back is encoded to the same file.

**The law** is `decode_encode`, over any text whose blocks fit: the exit status of the encoder, that the decoder
reads all that was written by then, and that what it writes is a fixed point of going there and back. It is put
together from three others, on texts (`blocks_text`), on the encoder's loop (`encodeLoop_eq`) and on the
decoder's (`decodeLoop_file`); each is an induction over the blocks or the lines, and a block is `HeaderBlock`'s
round trip with its size in front.

`Fits` is what the programs leave unchecked: a size that is narrowed to an `int` when it is written, and to 32
bits when it is announced. A block that does not fit is written to a file the decoder cannot follow.
-/

namespace Bnl.App.QpackInterop

open Bnl.Base Bnl.Http3 Bnl.Http3.Qpack

/-! ## Lines -/

/-- What a line says. -/
inductive Line where
  | blank
  | comment
  | header (header : Header)
  | unreadable
  deriving DecidableEq

/-- How a line is read: the first tab ends the name. -/
def Line.of : List UInt8 → Line
  | [] => .blank
  | first :: line =>
    if first = 0x23 then .comment
    else
      match (first :: line).findIdx? (· == 0x09) with
      | none => .unreadable
      | some i => .header ⟨(first :: line).take i, (first :: line).drop (i + 1)⟩

/-- What the lines say: the blocks that end with an empty line, and whether all lines could be read. -/
def blocks : List (List UInt8) → (headers : List Header) → List (List Header) × Bool
  | [], _ => ([], true)
  | line :: rest, headers =>
    match Line.of line with
    | .blank => if headers = [] then blocks rest [] else (headers :: (blocks rest []).1, (blocks rest []).2)
    | .comment => blocks rest headers
    | .header header => blocks rest (headers ++ [header])
    | .unreadable => ([], false)

/-- The text of blocks. -/
def text (bs : List (List Header)) : List UInt8 := bs.flatMap writeHeaders

/-- A header that a line can say. -/
structure Plain (header : Header) : Prop where
  name : ∀ byte ∈ header.name, byte ≠ 0x09 ∧ byte ≠ 0x0a
  value : ∀ byte ∈ header.value, byte ≠ 0x0a
  not_comment : header.name.head? ≠ some 0x23

/-- A line in front of a text. -/
theorem lines_append {line : List UInt8} (h : ∀ byte ∈ line, byte ≠ 0x0a) (rest : List UInt8) :
    lines (line ++ 0x0a :: rest) = line :: lines rest := by
  induction line with
  | nil =>
    rw [List.nil_append, lines, if_pos rfl]
  | cons byte line ih =>
    rw [List.cons_append, lines, if_neg (h byte List.mem_cons_self),
      ih fun b hb => h b (List.mem_cons_of_mem _ hb)]

/-- A line has no end of line in it. -/
theorem mem_lines {input line : List UInt8} (h : line ∈ lines input) : ∀ byte ∈ line, byte ≠ 0x0a := by
  induction input generalizing line with
  | nil => cases h
  | cons first input ih =>
    rw [lines] at h
    by_cases hfirst : first = 0x0a
    · rw [if_pos hfirst] at h
      rcases List.mem_cons.mp h with rfl | h
      · exact nofun
      · exact ih h
    · rw [if_neg hfirst] at h
      cases hlines : lines input with
      | nil =>
        rw [hlines] at h
        rw [List.mem_singleton.mp h]
        exact List.forall_mem_singleton.mpr hfirst
      | cons line' rest =>
        rw [hlines] at h ih
        rcases List.mem_cons.mp h with rfl | h
        · exact List.forall_mem_cons.mpr ⟨hfirst, ih List.mem_cons_self⟩
        · exact ih (List.mem_cons_of_mem _ h)

/-- The line of a header. -/
def lineOf (header : Header) : List UInt8 := header.name ++ 0x09 :: header.value

/-- A plain header is said by its line. -/
theorem Plain.line {header : Header} (h : Plain header) : Line.of (lineOf header) = .header header := by
  obtain ⟨first, line, hline⟩ := List.exists_cons_of_ne_nil
    (show lineOf header ≠ [] from List.append_ne_nil_of_right_ne_nil _ (List.cons_ne_nil _ _))
  have hcomment : first ≠ 0x23 := by
    rintro rfl
    unfold lineOf at hline
    cases hname : header.name with
    | nil =>
      rw [hname, List.nil_append] at hline
      exact absurd (List.cons.inj hline).1 (by decide)
    | cons byte name =>
      rw [hname, List.cons_append] at hline
      have hhead := h.not_comment
      rw [hname, (List.cons.inj hline).1] at hhead
      exact hhead rfl
  have htab : (lineOf header).findIdx? (· == 0x09) = some header.name.length := by
    unfold lineOf
    rw [List.findIdx?_append, List.findIdx?_eq_none_iff.mpr fun byte hb => beq_eq_false_iff_ne.mpr (h.name byte hb).1,
      Option.none_or, List.findIdx?_cons, if_pos (beq_self_eq_true _), Option.map_some, Nat.zero_add]
  have hdrop : (lineOf header).drop (header.name.length + 1) = header.value := by
    unfold lineOf
    rw [← List.drop_drop, List.drop_left]
    rfl
  have htake : (lineOf header).take header.name.length = header.name := List.take_left
  rw [hline] at htab hdrop htake ⊢
  unfold Line.of
  dsimp only
  rw [if_neg hcomment, htab]
  dsimp only
  rw [hdrop, htake]

/-- What a line says can be said. -/
theorem plain_of_line {line : List UInt8} {header : Header} (hline : ∀ byte ∈ line, byte ≠ 0x0a)
    (h : Line.of line = .header header) : Plain header := by
  cases line with
  | nil => cases h
  | cons first line =>
    unfold Line.of at h
    dsimp only at h
    by_cases hcomment : first = 0x23
    · rw [if_pos hcomment] at h
      cases h
    · rw [if_neg hcomment] at h
      match hfind : (first :: line).findIdx? (· == 0x09) with
      | none =>
        rw [hfind] at h
        cases h
      | some i =>
        rw [hfind] at h
        cases h
        obtain ⟨hi, -, hbefore⟩ := List.findIdx?_eq_some_iff_getElem.mp hfind
        refine ⟨fun byte hbyte => ⟨?_, hline byte (List.mem_of_mem_take hbyte)⟩,
          fun byte hbyte => hline byte (List.mem_of_mem_drop hbyte), ?_⟩
        · obtain ⟨j, hj, rfl⟩ := List.getElem_of_mem hbyte
          rw [List.length_take] at hj
          rw [List.getElem_take]
          have hne := hbefore j (by omega)
          exact fun heq => hne (beq_iff_eq.mpr heq)
        · cases i with
          | zero => exact nofun
          | succ i =>
            rw [List.take_succ_cons, List.head?_cons]
            exact fun heq => hcomment (Option.some.inj heq)

/-- The blocks of a text are not empty, and can be said. -/
theorem blocks_plain {ls : List (List UInt8)} {headers : List Header} (hls : ∀ line ∈ ls, ∀ byte ∈ line, byte ≠ 0x0a)
    (hheaders : ∀ header ∈ headers, Plain header) :
    ∀ block ∈ (blocks ls headers).1, block ≠ [] ∧ ∀ header ∈ block, Plain header := by
  induction ls generalizing headers with
  | nil => exact nofun
  | cons line rest ih =>
    obtain ⟨hline, hrest⟩ := List.forall_mem_cons.mp hls
    unfold blocks
    match hof : Line.of line with
    | .blank =>
      dsimp only
      by_cases hempty : headers = []
      · rw [if_pos hempty]
        exact ih hrest nofun
      · rw [if_neg hempty]
        exact List.forall_mem_cons.mpr ⟨⟨hempty, hheaders⟩, ih hrest nofun⟩
    | .comment => exact ih hrest hheaders
    | .header header =>
      refine ih hrest fun header' hmem => ?_
      rcases List.mem_append.mp hmem with hmem | hmem
      · exact hheaders header' hmem
      · exact List.mem_singleton.mp hmem ▸ plain_of_line hline hof
    | .unreadable => exact nofun

/-- The lines of one block in front of a text. -/
theorem lines_writeHeaders {headers : List Header} (h : ∀ header ∈ headers, Plain header) (rest : List UInt8) :
    lines (writeHeaders headers ++ rest) = headers.map lineOf ++ [] :: lines rest := by
  induction headers with
  | nil =>
    have hempty : ∀ byte ∈ ([] : List UInt8), byte ≠ 0x0a := nofun
    exact lines_append hempty rest
  | cons header headers ih =>
    obtain ⟨hheader, hheaders⟩ := List.forall_mem_cons.mp h
    have hline : ∀ byte ∈ lineOf header, byte ≠ 0x0a := by
      intro byte hbyte
      rcases List.mem_append.mp hbyte with hbyte | hbyte
      · exact (hheader.name byte hbyte).2
      · rcases List.mem_cons.mp hbyte with rfl | hbyte
        · decide
        · exact hheader.value byte hbyte
    have hsplit : writeHeaders (header :: headers) ++ rest =
        lineOf header ++ 0x0a :: (writeHeaders headers ++ rest) := by
      unfold writeHeaders lineOf
      rw [List.flatMap_cons]
      simp only [List.append_assoc, List.cons_append, List.nil_append]
    rw [hsplit, lines_append hline, ih hheaders]
    rfl

/-- The lines of headers go to the block that is open. -/
theorem blocks_map {headers before : List Header} (h : ∀ header ∈ headers, Plain header)
    (rest : List (List UInt8)) : blocks (headers.map lineOf ++ rest) before = blocks rest (before ++ headers) := by
  induction headers generalizing before with
  | nil => rw [List.append_nil]; rfl
  | cons header headers ih =>
    obtain ⟨hheader, hheaders⟩ := List.forall_mem_cons.mp h
    rw [List.map_cons, List.cons_append, blocks, hheader.line]
    dsimp only
    rw [ih hheaders, List.append_assoc]
    rfl

/-- **The text of blocks says these blocks.** -/
theorem blocks_text {bs : List (List Header)} (h : ∀ block ∈ bs, block ≠ [] ∧ ∀ header ∈ block, Plain header) :
    blocks (lines (text bs)) [] = (bs, true) := by
  induction bs with
  | nil => rfl
  | cons headers bs ih =>
    obtain ⟨⟨hne, hplain⟩, hbs⟩ := List.forall_mem_cons.mp h
    have htext : text (headers :: bs) = writeHeaders headers ++ text bs := List.flatMap_cons
    rw [htext, lines_writeHeaders hplain, blocks_map hplain, List.nil_append, blocks]
    show (if headers = [] then _ else _) = _
    rw [if_neg hne, ih hbs]

/-! ## The file -/

/-- What is written for each of the headers. -/
def wires (host : Host) : Encoder → List Header → List Buffer
  | _, [] => []
  | e, header :: headers =>
    ⟨e.wire (instruction host.xxh64 header)⟩ :: wires host
      { state := .header, count := e.count + (e.wire (instruction host.xxh64 header)).length } headers

/-- What is written for all of them. -/
def block (host : Host) (e : Encoder) (headers : List Header) : List UInt8 :=
  (wires host e headers).flatMap Buffer.bytes

/-- The file of blocks, numbered from `id`. -/
def file (host : Host) : (id : UInt64) → (bs : List (List Header)) → List UInt8
  | _, [] => []
  | id, headers :: bs => (idEncode id).bytes ++ ((sizeEncode (UInt32.ofNat (block host {} headers).length)).bytes ++
      (block host {} headers ++ file host (id + 1) bs))

/-- Headers that both programs can handle: the codec round-trips on each of them, no write is too long for its
count, and the size of the block fits into the four bytes it has. -/
structure Fits (host : Host) (headers : List Header) : Prop where
  lowercase : ∀ header ∈ headers, headerIsLowercase header = true
  encodable : ∀ header ∈ headers, Encodable header
  faithful : ∀ header ∈ headers, Faithful host.xxh64 header
  write_lt : ∀ buffer ∈ wires host {} headers, buffer.size < 2 ^ 31
  block_lt : (block host {} headers).length < 2 ^ 32

/-- What is asked of each header, and of the block. -/
theorem fits_iff {host : Host} {headers : List Header} : Fits host headers ↔
    (∀ header ∈ headers, headerIsLowercase header = true ∧ Encodable header ∧ Faithful host.xxh64 header) ∧
      (∀ buffer ∈ wires host {} headers, buffer.size < 2 ^ 31) ∧ (block host {} headers).length < 2 ^ 32 :=
  ⟨fun h => ⟨fun header hm => ⟨h.lowercase header hm, h.encodable header hm, h.faithful header hm⟩, h.write_lt,
      h.block_lt⟩,
    fun h => ⟨fun header hm => (h.1 header hm).1, fun header hm => (h.1 header hm).2.1,
      fun header hm => (h.1 header hm).2.2, h.2.1, h.2.2⟩⟩

instance (host : Host) (headers : List Header) : Decidable (Fits host headers) := decidable_of_iff _ fits_iff.symm

/-- The loop over the headers, where none is refused. -/
theorem encodeHeaders_eq {host : Host} {headers : List Header}
    (hlow : ∀ header ∈ headers, headerIsLowercase header = true) (e : Encoder) :
    ∃ e', encodeHeaders host e headers = (.ok (wires host e headers), e') ∧
      e'.count = e.count + (block host e headers).length := by
  induction headers generalizing e with
  | nil => exact ⟨e, rfl, rfl⟩
  | cons header headers ih =>
    obtain ⟨hheader, hheaders⟩ := List.forall_mem_cons.mp hlow
    obtain ⟨e', hrest, hcount⟩ := ih hheaders
      { state := .header, count := e.count + (e.wire (instruction host.xxh64 header)).length }
    refine ⟨e', ?_, ?_⟩
    · rw [encodeHeaders, encodeBuffer_eq hheader]
      dsimp only
      rw [hrest]
      rfl
    · unfold block at hcount ⊢
      rw [hcount, wires, List.flatMap_cons, List.length_append, Nat.add_assoc]

/-- Writes that have no negative count. -/
theorem foldlM_write {buffers : List Buffer} (h : ∀ buffer ∈ buffers, buffer.size < 2 ^ 31) (dest : List UInt8) :
    buffers.foldlM write dest = some (dest ++ buffers.flatMap Buffer.bytes) := by
  induction buffers generalizing dest with
  | nil => rw [List.flatMap_nil, List.append_nil]; rfl
  | cons buffer buffers ih =>
    obtain ⟨hbuffer, hbuffers⟩ := List.forall_mem_cons.mp h
    rw [List.foldlM_cons, write, if_pos hbuffer, Option.bind_eq_bind, Option.bind_some, ih hbuffers,
      List.flatMap_cons, List.append_assoc]

/-- A block that fits is written with its id and its size. -/
theorem encode_eq {host : Host} {headers : List Header} (h : Fits host headers) (id : UInt64) (output : List UInt8) :
    encode host id headers output = some (.ok (), output ++ file host id [headers]) := by
  obtain ⟨e, hall, hcount⟩ := encodeHeaders_eq h.lowercase {}
  have hid_lt : (idEncode id).size < 2 ^ 31 := Nat.lt_of_lt_of_le (show 8 < 9 by decide) (by decide)
  have hsize_lt (n : UInt32) : (sizeEncode n).size < 2 ^ 31 := Nat.lt_of_lt_of_le (show 4 < 5 by decide) (by decide)
  have hid : write output (idEncode id) = some (output ++ (idEncode id).bytes) := if_pos hid_lt
  have hsize (dest : List UInt8) (n : UInt32) : write dest (sizeEncode n) = some (dest ++ (sizeEncode n).bytes) :=
    if_pos (hsize_lt n)
  unfold encode
  rw [hall]
  dsimp only
  rw [hcount, Nat.zero_add, hid, Option.bind_eq_bind, Option.bind_some, hsize, Option.bind_some,
    foldlM_write h.write_lt, Option.bind_some, file, file, List.append_nil, List.append_assoc, List.append_assoc]
  rfl

/-- The first block, and the others. -/
theorem file_cons (host : Host) (id : UInt64) (headers : List Header) (bs : List (List Header)) :
    file host id (headers :: bs) = file host id [headers] ++ file host (id + 1) bs := by
  simp only [file, List.append_nil, List.append_assoc]

/-- What the encoder does with a line. -/
theorem encodeLoop_cons (host : Host) (line : List UInt8) (rest : List (List UInt8)) (id : UInt64)
    (headers : List Header) (output : List UInt8) : encodeLoop host (line :: rest) id headers output =
      match Line.of line with
      | .blank =>
        if headers.isEmpty then encodeLoop host rest id headers output
        else
          match encode host id headers output with
          | none => none
          | some (.error _, output) => some (1, output)
          | some (.ok (), output) => encodeLoop host rest (id + 1) [] output
      | .comment => encodeLoop host rest id headers output
      | .header header => encodeLoop host rest id (headers ++ [header]) output
      | .unreadable => some (1, output) := by
  cases line with
  | nil => rfl
  | cons first line =>
    rw [encodeLoop]
    unfold Line.of
    dsimp only
    by_cases hcomment : first = 0x23
    · rw [if_pos hcomment, if_pos hcomment]
    · rw [if_neg hcomment, if_neg hcomment]
      cases (first :: line).findIdx? (· == 0x09) with
      | none => rfl
      | some i => rfl

/-- The encoder writes the blocks of the lines. -/
theorem encodeLoop_eq {host : Host} {ls : List (List UInt8)} {headers : List Header} {id : UInt64}
    {output : List UInt8} (h : ∀ b ∈ (blocks ls headers).1, Fits host b) :
    encodeLoop host ls id headers output =
      some (if (blocks ls headers).2 then 0 else 1, output ++ file host id (blocks ls headers).1) := by
  induction ls generalizing headers id output with
  | nil => rw [blocks, file, List.append_nil]; rfl
  | cons line rest ih =>
    rw [encodeLoop_cons]
    unfold blocks at h ⊢
    match Line.of line, h with
    | .blank, h =>
      dsimp only at h ⊢
      by_cases hempty : headers = []
      · rw [if_pos hempty] at h ⊢
        rw [if_pos (List.isEmpty_iff.mpr hempty), hempty]
        exact ih h
      · rw [if_neg hempty] at h ⊢
        obtain ⟨hfits, hrest⟩ := List.forall_mem_cons.mp h
        rw [if_neg (mt List.isEmpty_iff.mp hempty), encode_eq hfits]
        dsimp only
        rw [ih hrest, file_cons host id headers (blocks rest []).1, List.append_assoc]
    | .comment, h => exact ih h
    | .header header, h => exact ih h
    | .unreadable, _ =>
      rw [file, List.append_nil]
      rfl

/-! ## Reading the file -/

/-- Four bytes taken apart and put together. -/
theorem size_value (n : UInt32) :
    ((n >>> 24).toUInt8.toUInt32 <<< 24 ||| (n >>> 16).toUInt8.toUInt32 <<< 16 |||
      (n >>> 8).toUInt8.toUInt32 <<< 8 ||| (n >>> 0).toUInt8.toUInt32 <<< 0) = n := by
  apply UInt32.toNat.inj
  have hn := n.toNat_lt
  simp only [UInt32.toNat_or, UInt32.toNat_shiftLeft, UInt8.toNat_toUInt32, UInt32.reduceToNat, Nat.reduceMod]
  simp (disch := decide) only [Bytes.shiftLeft_mod]
  rw [Bytes.or_byte 16 _ (by omega), Bytes.or_byte 8 _ (by omega), Bytes.or_byte 0 _ (by omega), Nat.shiftLeft_eq]
  simp only [UInt32.toNat_toUInt8, UInt32.toNat_shiftRight, UInt32.reduceToNat, Nat.reduceMod,
    Nat.shiftRight_eq_div_pow]
  omega

theorem sizeDecode_sizeEncode (n : UInt32) (rest : List UInt8) :
    sizeDecode ⟨(sizeEncode n).bytes ++ rest⟩ = (.ok n, ⟨rest⟩) := by
  have hlong : ¬ (⟨(sizeEncode n).bytes ++ rest⟩ : Buffer).size < 4 := by
    unfold Buffer.size
    rw [List.length_append]
    exact Nat.not_lt.mpr (Nat.le_add_right _ _)
  unfold sizeDecode
  rw [if_neg hlong]
  exact congrArg (fun m => (Except.ok m, (⟨rest⟩ : Buffer))) (size_value n)

/-- An id is read, whatever it is. -/
theorem idDecode_idEncode (id : UInt64) (rest : List UInt8) :
    ∃ id', idDecode ⟨(idEncode id).bytes ++ rest⟩ = (.ok id', ⟨rest⟩) := by
  have hlong : ¬ (⟨(idEncode id).bytes ++ rest⟩ : Buffer).size < 8 := by
    unfold Buffer.size
    rw [List.length_append]
    exact Nat.not_lt.mpr (Nat.le_add_right _ _)
  unfold idDecode
  rw [if_neg hlong]
  exact ⟨_, rfl⟩

/-- Each header takes a byte. -/
theorem length_le_block (host : Host) (e : Encoder) (headers : List Header) :
    headers.length ≤ (block host e headers).length := by
  induction headers generalizing e with
  | nil => exact Nat.zero_le _
  | cons header headers ih =>
    have hpos := List.length_pos_of_ne_nil (e.wire_ne_nil (instruction host.xxh64 header))
    have hrest := ih { state := .header, count := e.count + (e.wire (instruction host.xxh64 header)).length }
    unfold block at hrest ⊢
    rw [wires, List.flatMap_cons, List.length_append, List.length_cons, Nat.add_comm]
    exact Nat.add_le_add hpos hrest

/-- The decoder reads the headers of a block, and stops behind the last of them: each of them takes a byte, so the
count meets the size there and not before. -/
theorem decodeHeaders_block {host : Host} {headers : List Header}
    (hlow : ∀ header ∈ headers, headerIsLowercase header = true) (henc : ∀ header ∈ headers, Encodable header)
    (hf : ∀ header ∈ headers, Faithful host.xxh64 header) {e : Encoder} {d : Decoder} (hstate : d.state = e.state)
    (rest : List UInt8) {fuel : Nat} (hfuel : headers.length < fuel) :
    decodeHeaders (d.count + (block host e headers).length) fuel d ⟨block host e headers ++ rest⟩ =
      some (.ok headers, ⟨rest⟩) := by
  induction headers generalizing e d fuel with
  | nil =>
    obtain ⟨fuel, rfl⟩ : ∃ n, fuel = n + 1 := ⟨fuel - 1, by omega⟩
    rw [decodeHeaders, if_pos]
    · rfl
    · rfl
  | cons header headers ih =>
    obtain ⟨fuel, rfl⟩ : ∃ n, fuel = n + 1 := ⟨fuel - 1, by omega⟩
    obtain ⟨hlow₁, hlow⟩ := List.forall_mem_cons.mp hlow
    obtain ⟨henc₁, henc⟩ := List.forall_mem_cons.mp henc
    obtain ⟨hf₁, hf⟩ := List.forall_mem_cons.mp hf
    have hpos := List.length_pos_of_ne_nil (e.wire_ne_nil (instruction host.xxh64 header))
    let e₁ : Encoder := { state := .header, count := e.count + (e.wire (instruction host.xxh64 header)).length }
    let d₁ : Decoder := { state := .header, count := d.count + (e.wire (instruction host.xxh64 header)).length }
    have hblock : block host e (header :: headers) =
        e.wire (instruction host.xxh64 header) ++ block host e₁ headers := by
      unfold block
      rw [wires, List.flatMap_cons]
    have hcount : d.count + (block host e (header :: headers)).length =
        d₁.count + (block host e₁ headers).length := by
      rw [hblock, List.length_append, ← Nat.add_assoc]
    have hlt : d.count ≠ d₁.count + (block host e₁ headers).length := by
      show d.count ≠ d.count + (e.wire (instruction host.xxh64 header)).length + _
      omega
    have hstep := decodeBytes_wire hlow₁ henc₁ hf₁ hstate (block host e₁ headers ++ rest)
    have hbytes : Sequence.bytes (⟨block host e (header :: headers) ++ rest⟩ : Buffer) =
        e.wire (instruction host.xxh64 header) ++ (block host e₁ headers ++ rest) := by
      rw [hblock, List.append_assoc]
      rfl
    rw [← hbytes, ← Decoder.decode_bytes] at hstep
    obtain ⟨encoded, hd₁, hrest⟩ := Sequence.of_onBytes hstep
    have hencoded : encoded = ⟨block host e₁ headers ++ rest⟩ := congrArg Buffer.mk hrest
    rw [hcount, decodeHeaders, if_neg hlt, hd₁, hencoded]
    dsimp only
    rw [ih hlow henc hf (e := e₁) (d := d₁) rfl (Nat.lt_of_succ_lt_succ hfuel)]

/-- A block that fits is read, and written as text. -/
theorem decode_file {host : Host} {headers : List Header} (h : Fits host headers) (id : UInt64)
    (rest output : List UInt8) : decode ⟨file host id [headers] ++ rest⟩ output =
      some (.ok (), ⟨rest⟩, output ++ writeHeaders headers) := by
  have hfile : file host id [headers] ++ rest = (idEncode id).bytes ++
      ((sizeEncode (UInt32.ofNat (block host {} headers).length)).bytes ++ (block host {} headers ++ rest)) := by
    simp only [file, List.append_nil, List.append_assoc]
  have hsize : (UInt32.ofNat (block host {} headers).length).toNat =
      ({} : Decoder).count + (block host {} headers).length := by
    rw [UInt32.toNat_ofNat_of_lt' h.block_lt, Nat.zero_add]
  have hfuel : headers.length < (⟨block host {} headers ++ rest⟩ : Buffer).size + 1 := by
    have hle := length_le_block host {} headers
    unfold Buffer.size
    rw [List.length_append]
    omega
  obtain ⟨id', hid⟩ := idDecode_idEncode id
    ((sizeEncode (UInt32.ofNat (block host {} headers).length)).bytes ++ (block host {} headers ++ rest))
  unfold decode
  rw [hfile, hid]
  dsimp only
  rw [sizeDecode_sizeEncode]
  dsimp only
  rw [hsize, decodeHeaders_block h.lowercase h.encodable h.faithful rfl rest hfuel]

/-- So is a file of such blocks. The fuel is more than the bytes, and a block takes twelve. -/
theorem decodeLoop_file {host : Host} {bs : List (List Header)} (h : ∀ headers ∈ bs, Fits host headers)
    {id : UInt64} {output : List UInt8} {fuel : Nat} (hfuel : (file host id bs).length < fuel) :
    decodeLoop fuel ⟨file host id bs⟩ output = some (0, output ++ text bs) := by
  induction bs generalizing id output fuel with
  | nil =>
    obtain ⟨fuel, rfl⟩ : ∃ n, fuel = n + 1 := ⟨fuel - 1, by omega⟩
    rw [text, List.flatMap_nil, List.append_nil]
    rfl
  | cons headers bs ih =>
    obtain ⟨fuel, rfl⟩ : ∃ n, fuel = n + 1 := ⟨fuel - 1, by omega⟩
    obtain ⟨hheaders, hbs⟩ := List.forall_mem_cons.mp h
    have hlong : 0 < (file host id [headers]).length := Nat.zero_lt_succ _
    have hempty : ¬ (⟨file host id [headers] ++ file host (id + 1) bs⟩ : Buffer).empty = true := by
      unfold Buffer.empty Buffer.size
      rw [List.length_append]
      exact mt beq_iff_eq.mp (by omega)
    rw [file_cons, List.length_append] at hfuel
    rw [file_cons, decodeLoop, if_neg hempty, decode_file hheaders]
    dsimp only
    rw [ih hbs (by omega), text, text, List.flatMap_cons, List.append_assoc]

/-- **Decoding undoes encoding, up to what the text did not say.** The encoder ends with an error exactly where a
line cannot be read. The decoder reads what was written by then, all of it, and writes the text of the blocks, which
is encoded to the same file again. -/
theorem decode_encode {host : Host} {input : List UInt8}
    (h : ∀ headers ∈ (blocks (lines input) []).1, Fits host headers) :
    ∃ encoded, encodeMain host input = some (if (blocks (lines input) []).2 then 0 else 1, encoded) ∧
      decodeMain encoded = some (0, text (blocks (lines input) []).1) ∧
        encodeMain host (text (blocks (lines input) []).1) = some (0, encoded) := by
  refine ⟨file host 1 (blocks (lines input) []).1, encodeLoop_eq h, decodeLoop_file h (Nat.lt_succ_self _), ?_⟩
  have hplain : ∀ block ∈ (blocks (lines input) []).1, block ≠ [] ∧ ∀ header ∈ block, Plain header :=
    blocks_plain (fun line hline => mem_lines hline) nofun
  have htext := blocks_text hplain
  unfold encodeMain
  rw [encodeLoop_eq (by rw [htext]; exact h), htext]
  rfl

/-- A comment, two blocks, and a line that is none. -/
def twoBlocks : List UInt8 := ascii "#\n:method\tGET\nx\t7\n\n\n:path\t/\n\nno tab"

/-- The blocks are two; the last line is an error of the encoder. -/
theorem decode_encode_twoBlocks : ∃ encoded,
    encodeMain xxHost twoBlocks = some (if (blocks (lines twoBlocks) []).2 then 0 else 1, encoded) ∧
      decodeMain encoded = some (0, text (blocks (lines twoBlocks) []).1) ∧
        encodeMain xxHost (text (blocks (lines twoBlocks) []).1) = some (0, encoded) :=
  decode_encode (by decide +kernel)

end Bnl.App.QpackInterop
