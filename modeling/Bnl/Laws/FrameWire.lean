import Bnl.Laws.Frame

/-!
# What a frame is on the wire

Size computation, encoder and decoder are three switches over the nine types. Here they meet in one byte list:
the type, the size of the payload and the part of the payload that is coded here (`Frame.wire`). `encodedSize`
is its length, `encode` stores it, the parser `single` reads it back. What is encodable is said without the
machine's arithmetic: integers and the payload's true length are below 2^62. The decoder never yields a frame
that is not.

**The law** is `round_trip`: over all encodable frames, all memories and any bytes behind, on any sequence; and
for the decoder, over all inputs. Its parts are `payloadSize_eq` and `encodedSize_eq`, `encode_eq`,
`single_wire`, `peekParser_wire` and `encodable_of_single`, one case for each type in each.

Settings are the only payload of any length. Their encoder leaves out a zero of `num_placeholders`, and the
decoder starts from the defaults, so that what comes back is the same settings needs `applySettings_written`:
what is not written is what it is by default. Their loop is related to the list of settings by induction, in
both directions.

What is written of a frame that is not encodable, and whether anything is, is in `FrameLength`.
-/

namespace Bnl.Http3

open Incremental Bnl.Base

namespace Varint

/-- What was read as a varint: a first byte that tells the size, and so many more. -/
theorem parser_splits {b rest : List UInt8} {v : UInt64} (h : parser b = .ok (v, rest)) :
    ∃ c k, b = c ++ rest ∧ k < 4 ∧ c.length = 2 ^ k ∧ v.toNat < 2 ^ (8 * 2 ^ k - 2) := by
  cases b with
  | nil => cases h
  | cons first tl =>
    have hk : first.toNat / 64 < 4 := Nat.div_lt_of_lt_mul first.toNat_lt
    have hpos := Nat.two_pow_pos (first.toNat / 64)
    by_cases hlen : 2 ^ (first.toNat / 64) - 1 ≤ tl.length
    · obtain ⟨bs, tl', rfl, hbs⟩ : ∃ bs tl', tl = bs ++ tl' ∧
          bs.length + 1 = 2 ^ (first.toNat / 64) :=
        ⟨tl.take (2 ^ (first.toNat / 64) - 1), tl.drop (2 ^ (first.toNat / 64) - 1),
          (List.take_append_drop _ _).symm, by rw [List.length_take]; omega⟩
      rw [parser_cons hbs] at h
      cases h
      refine ⟨first :: bs, _, rfl, hk, hbs, ?_⟩
      rw [hbs, UInt64.toNat_ofNat']
      exact Nat.lt_of_le_of_lt (Nat.mod_le _ _) (Nat.mod_lt _ (Nat.two_pow_pos _))
    · rw [parser_cons_short (by omega)] at h
      cases h

/-- A varint holds less than 62 bits. -/
theorem parser_value_lt {b rest : List UInt8} {v : UInt64} (h : parser b = .ok (v, rest)) :
    v.toNat < 2 ^ 62 := by
  obtain ⟨c, k, -, hk, -, hv⟩ := parser_splits h
  have h8 : 2 ^ k ≤ 2 ^ 3 := Nat.pow_le_pow_right (by decide) (Nat.le_of_lt_succ hk)
  exact Nat.lt_of_lt_of_le hv (Nat.pow_le_pow_right (by decide) (by omega))

/-- The shortest varint is the shortest. -/
theorem length_bytes_le {v : UInt64} {k : Nat} (hk : k < 4) (hv : v.toNat < 2 ^ (8 * 2 ^ k - 2)) :
    (bytes v).length ≤ 2 ^ k := by
  rw [length_bytes]
  refine Nat.pow_le_pow_right (by decide) ?_
  unfold sizeLog
  match k, hk with
  | 0, _ =>
    rw [if_pos (UInt64.lt_iff_toNat_lt.mpr hv)]
  | 1, _ =>
    split
    · decide
    · rw [if_pos (UInt64.lt_iff_toNat_lt.mpr hv)]
  | 2, _ =>
    split
    · decide
    split
    · decide
    · rw [if_pos (UInt64.lt_iff_toNat_lt.mpr hv)]
  | 3, _ =>
    split
    · decide
    split
    · decide
    split <;> decide

/-- No varint is longer than eight bytes. -/
theorem length_bytes_le_eight (v : UInt64) : (bytes v).length ≤ 8 := by
  rw [length_bytes]
  unfold sizeLog
  split
  · decide
  split
  · decide
  split <;> decide

/-- The bytes are a varint that holds `v`. -/
def Encodes (bs : List UInt8) (v : UInt64) : Prop :=
  decode (⟨bs⟩ : Buffer) = (.ok v, {})

/-- The same, of the parser. -/
theorem Encodes.parser {bs : List UInt8} {v : UInt64} (h : Encodes bs v) :
    Varint.parser bs = .ok (v, []) := by
  have hb : Sequence.bytes (⟨bs⟩ : Buffer) = bs := rfl
  unfold Encodes at h
  rw [decode_eq] at h
  cases hp : Varint.parser bs with
  | error e =>
    rw [Sequence.read_error (hb.symm ▸ hp)] at h
    cases h
  | ok q =>
    obtain ⟨v', rest⟩ := q
    have hrest := Sequence.read_rest (s := (⟨bs⟩ : Buffer)) parser_stable (hb.symm ▸ hp)
    rw [h] at hrest
    obtain rfl : [] = rest := hrest
    rw [Sequence.read_ok (hb.symm ▸ hp)] at h
    exact congrArg (fun v => Except.ok (v, [])) (Except.ok.inj (congrArg Prod.fst h))

/-- The shortest form is one of them. -/
theorem encodes_bytes {v : UInt64} (hv : v.toNat < 2 ^ 62) : Encodes (bytes v) v := by
  have hp := parser_bytes hv []
  rw [List.append_nil] at hp
  unfold Encodes
  rw [decode_eq, Sequence.read_ok (s := (⟨bytes v⟩ : Buffer)) hp]
  exact congrArg (fun bs => (Except.ok v, Buffer.mk bs)) List.drop_length

end Varint

namespace Frame

/-! ## What can be encoded -/

/-- The integer fields. -/
def integers : Frame → List UInt64
  | .data size => [size]
  | .headers size => [size]
  | .priority p => [p.prioritizedElementId, p.elementDependencyId]
  | .cancelPush pushId => [pushId]
  | .settings s => s.array.map Prod.snd
  | .pushPromise pushId size => [pushId, size]
  | .goaway streamId => [streamId]
  | .maxPushId pushId => [pushId]
  | .duplicatePush pushId => [pushId]

/-- Settings as they are written. -/
def settingsWire (settings : List (UInt64 × UInt64)) : List UInt8 :=
  settings.flatMap fun setting => Varint.bytes setting.1 ++ Varint.bytes setting.2

/-- The byte the two types of a PRIORITY frame are packed in. -/
def Priority.types (p : Priority) : UInt8 :=
  p.prioritizedElementType.value <<< 6 ||| p.elementDependencyType.value <<< 4

/-- The part of the payload that is coded here. -/
def coded : Frame → List UInt8
  | .data _ => []
  | .headers _ => []
  | .priority p => p.types :: (Varint.bytes p.prioritizedElementId ++
      (Varint.bytes p.elementDependencyId ++ [p.weight]))
  | .cancelPush pushId => Varint.bytes pushId
  | .settings s => settingsWire (writtenSettings s)
  | .pushPromise pushId _ => Varint.bytes pushId
  | .goaway streamId => Varint.bytes streamId
  | .maxPushId pushId => Varint.bytes pushId
  | .duplicatePush pushId => Varint.bytes pushId

/-- The bytes of the payload that follow the frame in the stream. -/
def following : Frame → Nat
  | .data size => size.toNat
  | .headers size => size.toNat
  | .pushPromise _ size => size.toNat
  | _ => 0

/-- The length of the payload, without wrapping. -/
def payloadLength (frame : Frame) : Nat := frame.coded.length + frame.following

/-- Integers and length fit in varints. -/
structure Encodable (frame : Frame) : Prop where
  integers : ∀ n ∈ frame.integers, n.toNat < 2 ^ 62
  length : frame.payloadLength < 2 ^ 62

instance (frame : Frame) : Decidable frame.Encodable :=
  have : Decidable (∀ n ∈ frame.integers, n.toNat < 2 ^ 62) := List.decidableBAll _ frame.integers
  decidable_of_iff ((∀ n ∈ frame.integers, n.toNat < 2 ^ 62) ∧ frame.payloadLength < 2 ^ 62)
    ⟨fun h => ⟨h.1, h.2⟩, fun h => ⟨h.integers, h.length⟩⟩

/-- The size of the payload as it is written. -/
def sizeField (frame : Frame) : UInt64 := UInt64.ofNat frame.payloadLength

/-- The bytes of a frame. -/
def wire (frame : Frame) : List UInt8 :=
  Varint.bytes frame.type.value ++ (Varint.bytes frame.sizeField ++ frame.coded)

/-- The types are short varints. -/
theorem type_lt (type : FrameType) : type.value.toNat < 2 ^ 62 := by
  cases type <;> decide

/-- The size of an encodable frame is its true length. -/
theorem Encodable.sizeField_toNat {frame : Frame} (h : frame.Encodable) :
    frame.sizeField.toNat = frame.payloadLength := by
  have := h.length
  rw [sizeField, UInt64.toNat_ofNat']
  omega

theorem Encodable.sizeField_lt {frame : Frame} (h : frame.Encodable) :
    frame.sizeField.toNat < 2 ^ 62 := h.sizeField_toNat ▸ h.length

/-- What is written of the settings is below 2^62 if the settings are. -/
theorem written_lt {s : Settings} (h : (Frame.settings s).Encodable) :
    ∀ setting ∈ writtenSettings s, setting.1.toNat < 2 ^ 62 ∧ setting.2.toNat < 2 ^ 62 := by
  intro setting hmem
  have harray := (List.mem_filter.mp hmem).1
  refine ⟨?_, h.integers setting.2 (List.mem_map_of_mem harray)⟩
  simp only [Settings.array, List.mem_cons, List.not_mem_nil, or_false] at harray
  rcases harray with rfl | rfl | rfl | rfl
  all_goals exact of_decide_eq_true rfl

/-! ## Sizes -/

/-- The sizes of the settings add up to the bytes they are written in. -/
theorem settingsSize_eq {settings : List (UInt64 × UInt64)}
    (h : ∀ setting ∈ settings, setting.1.toNat < 2 ^ 62 ∧ setting.2.toNat < 2 ^ 62)
    (n : Nat) : settingsSize settings (UInt64.ofNat n) =
      .ok (UInt64.ofNat (n + (settingsWire settings).length)) := by
  induction settings generalizing n with
  | nil => rfl
  | cons setting rest ih =>
    obtain ⟨hid, hvalue⟩ := h setting List.mem_cons_self
    unfold settingsSize
    rw [Varint.encodedSize_eq hid, Varint.encodedSize_eq hvalue]
    show settingsSize rest _ = _
    rw [← UInt64.ofNat_add, ← UInt64.ofNat_add,
      ih fun s hs => h s (List.mem_cons_of_mem _ hs)]
    have hlen : (settingsWire (setting :: rest)).length = (Varint.bytes setting.1).length +
        (Varint.bytes setting.2).length + (settingsWire rest).length := by
      rw [settingsWire, List.flatMap_cons, List.length_append, List.length_append]
      rfl
    rw [hlen, ← Nat.add_assoc, ← Nat.add_assoc]

/-- **The size of the payload is its true length.** -/
theorem payloadSize_eq {frame : Frame} (h : frame.Encodable) :
    frame.payloadSize = .ok frame.sizeField := by
  have hvarint {n : UInt64} (hn : n.toNat < 2 ^ 62) :
      (do pure (UInt64.ofNat (← Varint.encodedSize n)) : Except Error UInt64) =
        .ok (UInt64.ofNat (Varint.bytes n).length) := by
    rw [Varint.encodedSize_eq hn]
    rfl
  have hints := h.integers
  cases frame with
  | data size => exact congrArg Except.ok (by simp [sizeField, payloadLength, coded, following])
  | headers size => exact congrArg Except.ok (by simp [sizeField, payloadLength, coded, following])
  | priority p =>
    have hid := hints p.prioritizedElementId List.mem_cons_self
    have hdependency := hints p.elementDependencyId (List.mem_cons_of_mem _ List.mem_cons_self)
    unfold payloadSize
    dsimp only
    rw [Varint.encodedSize_eq hid, Varint.encodedSize_eq hdependency]
    have hlen : (Frame.priority p).payloadLength = 1 + (Varint.bytes p.prioritizedElementId).length +
        (Varint.bytes p.elementDependencyId).length + 1 := by
      simp only [payloadLength, coded, following, List.length_cons, List.length_append,
        List.length_nil]
      omega
    rw [sizeField, hlen, UInt64.ofNat_add, UInt64.ofNat_add, UInt64.ofNat_add]
    rfl
  | settings s =>
    have := settingsSize_eq (written_lt h) 0
    rw [Nat.zero_add] at this
    exact this
  | pushPromise pushId size =>
    unfold payloadSize
    dsimp only
    rw [Varint.encodedSize_eq (hints pushId List.mem_cons_self), sizeField, payloadLength,
      UInt64.ofNat_add, following, UInt64.ofNat_toNat]
    rfl
  | cancelPush pushId => exact hvarint (hints pushId List.mem_cons_self)
  | goaway streamId => exact hvarint (hints streamId List.mem_cons_self)
  | maxPushId pushId => exact hvarint (hints pushId List.mem_cons_self)
  | duplicatePush pushId => exact hvarint (hints pushId List.mem_cons_self)

/-- **The announced size is the length of the frame.** -/
theorem encodedSize_eq {frame : Frame} (h : frame.Encodable) :
    frame.encodedSize = .ok frame.wire.length := by
  have hwire : frame.wire.length = (Varint.bytes frame.type.value).length +
      (Varint.bytes frame.sizeField).length + frame.coded.length := by
    rw [wire, List.length_append, List.length_append, ← Nat.add_assoc]
  have hsize : frame.sizeField.toNat = frame.coded.length + frame.following := h.sizeField_toNat
  unfold encodedSize
  rw [payloadSize_eq h]
  dsimp only [Bind.bind, Except.bind, pure, Except.pure]
  rw [Varint.encodedSize_eq (type_lt _), Varint.encodedSize_eq h.sizeField_lt, hwire]
  cases frame with
  | headers size => rfl
  | data size => rfl
  | pushPromise pushId size =>
    dsimp only
    rw [Varint.encodedSize_eq (h.integers pushId List.mem_cons_self)]
    rfl
  | _ =>
    -- nothing follows the frame in the stream
    dsimp only [following] at hsize ⊢
    rw [hsize, Nat.add_zero]

/-! ## Encoding -/

/-- The loop over the settings writes them one after another. -/
theorem encodeSettings_eq {settings : List (UInt64 × UInt64)}
    (h : ∀ setting ∈ settings, setting.1.toNat < 2 ^ 62 ∧ setting.2.toNat < 2 ^ 62)
    (m : Memory) (dest : Nat) : encodeSettings m dest settings =
      .ok (dest + (settingsWire settings).length, m.store dest (settingsWire settings)) := by
  induction settings generalizing m dest with
  | nil => rfl
  | cons setting rest ih =>
    obtain ⟨hid, hvalue⟩ := h setting List.mem_cons_self
    have hwire : settingsWire (setting :: rest) =
        Varint.bytes setting.1 ++ (Varint.bytes setting.2 ++ settingsWire rest) := by
      rw [settingsWire, List.flatMap_cons, List.append_assoc]
      rfl
    unfold encodeSettings
    rw [Varint.encode_eq hid]
    dsimp only [Bind.bind, Except.bind]
    rw [Varint.encode_eq hvalue]
    dsimp only
    rw [ih fun s hs => h s (List.mem_cons_of_mem _ hs), hwire, Memory.store_append,
      Memory.store_append, List.length_append, List.length_append]
    simp only [Nat.add_assoc]

/-- The shifts of the source make that byte: its mask changes nothing. -/
theorem types_eq (p : Priority) :
    (((0 : UInt8) ||| (p.prioritizedElementType.value.toUInt32 <<< 6).toUInt8) |||
      (p.elementDependencyType.value.toUInt32 <<< 4).toUInt8) &&& 0xf0 = p.types := by
  unfold Priority.types
  cases p.prioritizedElementType <;> cases p.elementDependencyType <;> decide

/-- A payload that is one varint. -/
theorem encodePayload_varint {n : UInt64} (hn : n.toNat < 2 ^ 62) (m : Memory) (dest : Nat) :
    (do
      let (k, m) ← Varint.encode m dest n
      pure (dest + k, m) : Except Error (Nat × Memory)) =
      .ok (dest + (Varint.bytes n).length, m.store dest (Varint.bytes n)) := by
  rw [Varint.encode_eq hn]
  rfl

/-- The switch writes the coded part of the payload. -/
theorem encodePayload_eq {frame : Frame} (h : frame.Encodable) (m : Memory) (dest : Nat) :
    frame.encodePayload m dest =
      .ok (dest + frame.coded.length, m.store dest frame.coded) := by
  have hints := h.integers
  cases frame with
  | data size => rfl
  | headers size => rfl
  | priority p =>
    have hid := hints p.prioritizedElementId List.mem_cons_self
    have hdependency := hints p.elementDependencyId (List.mem_cons_of_mem _ List.mem_cons_self)
    unfold encodePayload
    dsimp only
    rw [types_eq, Varint.encode_eq hid]
    dsimp only [Bind.bind, Except.bind]
    rw [Varint.encode_eq hdependency]
    dsimp only
    rw [coded, Memory.store_cons, Memory.store_append, Memory.store_append, Memory.store_singleton]
    simp only [List.length_cons, List.length_append, List.length_nil]
    refine congrArg (fun n => Except.ok (n, _)) ?_
    omega
  | settings s => exact encodeSettings_eq (written_lt h) m dest
  | pushPromise pushId size => exact encodePayload_varint (hints pushId List.mem_cons_self) m dest
  | cancelPush pushId => exact encodePayload_varint (hints pushId List.mem_cons_self) m dest
  | goaway streamId => exact encodePayload_varint (hints streamId List.mem_cons_self) m dest
  | maxPushId pushId => exact encodePayload_varint (hints pushId List.mem_cons_self) m dest
  | duplicatePush pushId => exact encodePayload_varint (hints pushId List.mem_cons_self) m dest

/-- **The encoder writes the bytes of the frame.** -/
theorem encode_eq {frame : Frame} (h : frame.Encodable) (m : Memory) (start : Nat) :
    frame.encode m start = .ok (frame.wire.length, m.store start frame.wire) := by
  unfold encode
  rw [payloadSize_eq h]
  dsimp only [Bind.bind, Except.bind]
  rw [Varint.encode_eq (type_lt _)]
  dsimp only
  rw [Varint.encode_eq h.sizeField_lt]
  dsimp only
  rw [encodePayload_eq h]
  dsimp only
  rw [wire, Memory.store_append, Memory.store_append, List.length_append, List.length_append]
  refine congrArg (fun n => Except.ok (n, _)) ?_
  omega

/-- A buffer of its own holds just the frame. -/
theorem encodeBuffer_eq {frame : Frame} (h : frame.Encodable) (host : Host) :
    frame.encodeBuffer host = .ok ⟨frame.wire⟩ := by
  unfold encodeBuffer
  rw [encodedSize_eq h]
  show (frame.encode host.storage 0 >>= _) = _
  rw [encode_eq h]
  exact congrArg (fun bs => Except.ok (Buffer.mk bs)) (Memory.load_store _ _ _)

/-! ## Reading a frame back -/

/-- The settings a list of written ones amounts to. -/
def applySettings (settings : List (UInt64 × UInt64)) (s : Settings) : Settings :=
  settings.foldl (fun s setting => updateSettings s setting.1 setting.2) s

/-- What is not written is what it is by default. -/
theorem applySettings_written (s : Settings) : applySettings (writtenSettings s) {} = s := by
  obtain ⟨maxHeaderListSize, numPlaceholders, qpackMaxTableCapacity, qpackBlockedStreams⟩ := s
  by_cases hzero : numPlaceholders = 0
  · subst hzero
    rfl
  · have hwritten : writtenSettings
        ⟨maxHeaderListSize, numPlaceholders, qpackMaxTableCapacity, qpackBlockedStreams⟩ =
        Settings.array
          ⟨maxHeaderListSize, numPlaceholders, qpackMaxTableCapacity, qpackBlockedStreams⟩ := by
      refine List.filter_eq_self.mpr fun setting hmem => ?_
      simp only [Settings.array, List.mem_cons, List.not_mem_nil, or_false] at hmem
      rcases hmem with rfl | rfl | rfl | rfl
      · rfl
      · simp [hzero]
      · rfl
      · rfl
    rw [hwritten]
    rfl

/-- The bytes are settings one after another, each an identifier and a value. -/
inductive SettingsPayload : List UInt8 → List (UInt64 × UInt64) → Prop where
  | nil : SettingsPayload [] []
  | cons {i v p : List UInt8} {setting : UInt64 × UInt64} {settings : List (UInt64 × UInt64)} :
    Varint.Encodes i setting.1 → Varint.Encodes v setting.2 → SettingsPayload p settings →
      SettingsPayload (i ++ (v ++ p)) (setting :: settings)

/-- Written settings are settings one after another. -/
theorem settingsWire_payload {settings : List (UInt64 × UInt64)}
    (h : ∀ setting ∈ settings, setting.1.toNat < 2 ^ 62 ∧ setting.2.toNat < 2 ^ 62) :
    SettingsPayload (settingsWire settings) settings := by
  induction settings with
  | nil => exact .nil
  | cons setting settings ih =>
    obtain ⟨hid, hvalue⟩ := h setting List.mem_cons_self
    rw [settingsWire, List.flatMap_cons, List.append_assoc]
    exact .cons (Varint.encodes_bytes hid) (Varint.encodes_bytes hvalue)
      (ih fun s hs => h s (List.mem_cons_of_mem _ hs))

/-- The loop over the settings reads them one after another, up to the size it is given. -/
theorem settings_loop {size : UInt64} {p : List UInt8} {settings : List (UInt64 × UInt64)}
    (h : SettingsPayload p settings) {n : Nat} (hsize : n + p.length = size.toNat) (s : Settings)
    (rest : List UInt8) :
    Parser.loop .incomplete (settingsRound size) (n, s) (p ++ rest) =
      .ok (applySettings settings s, rest) := by
  induction h generalizing n s with
  | nil =>
    have hn : n = size.toNat := hsize
    refine Parser.loop_done (settingsRound_advances size) ?_
    unfold settingsRound
    rw [if_neg (by dsimp only; omega)]
    rfl
  | @cons i v p st settings hid hvalue _ ih =>
    have hread : setting (i ++ (v ++ p) ++ rest) = .ok (st, p ++ rest) := by
      unfold setting
      rw [List.append_assoc, List.append_assoc,
        Parser.bind_ok (Varint.parser_stable.append_ok hid.parser _), List.nil_append,
        Parser.bind_ok (Varint.parser_stable.append_ok hvalue.parser _), List.nil_append]
      rfl
    have hlt := setting_lt hread
    simp only [List.length_append] at hlt hsize
    have hround : settingsRound size (n, s) (i ++ (v ++ p) ++ rest) =
        .ok (.inl (n + (i.length + v.length), updateSettings s st.1 st.2), p ++ rest) := by
      unfold settingsRound
      rw [if_pos (by dsimp only; omega), Parser.bind_ok (Parser.measure_ok hread)]
      simp only [List.length_append]
      rw [show i.length + (v.length + p.length) + rest.length - (p.length + rest.length) =
        i.length + v.length by omega]
      rfl
    rw [Parser.loop_next (settingsRound_advances size) hround]
    exact ih (by omega) _

/-- The two types read back from their byte. -/
theorem types_ofValue (p : Priority) : ElementType.ofValue (p.types >>> 6) = p.prioritizedElementType ∧
    ElementType.ofValue (p.types >>> 4 &&& 0x03) = p.elementDependencyType := by
  unfold Priority.types
  cases p.prioritizedElementType <;> cases p.elementDependencyType <;> decide

/-- **The payload of a frame reads back as the frame**, and is as long as the size check wants. -/
theorem payload_coded {frame : Frame} (h : frame.Encodable) (rest : List UInt8) :
    ∃ n : UInt64, n.toNat = frame.coded.length ∧
      payload frame.type frame.sizeField (frame.coded ++ rest) = .ok ((frame, n), rest) := by
  have hsize := h.sizeField_toNat
  have hvarint {v : UInt64} (hv : v.toNat < 2 ^ 62) (k : UInt64 → Frame × UInt64) :
      (Varint.parser >>= fun v => pure (k v)) (Varint.bytes v ++ rest) = .ok (k v, rest) :=
    Parser.bind_ok (Varint.parser_bytes hv rest)
  have hints := h.integers
  cases frame with
  | data size =>
    refine ⟨0, rfl, ?_⟩
    simp only [sizeField, payloadLength, coded, following, List.length_nil, Nat.zero_add,
      UInt64.ofNat_toNat]
    rfl
  | headers size =>
    refine ⟨0, rfl, ?_⟩
    simp only [sizeField, payloadLength, coded, following, List.length_nil, Nat.zero_add,
      UInt64.ofNat_toNat]
    rfl
  | priority p =>
    have hid := hints p.prioritizedElementId List.mem_cons_self
    have hdependency := hints p.elementDependencyId (List.mem_cons_of_mem _ List.mem_cons_self)
    obtain ⟨htype, htype'⟩ := types_ofValue p
    refine ⟨_, hsize, ?_⟩
    unfold coded payload
    dsimp only [type]
    rw [List.cons_append, List.append_assoc, List.append_assoc,
      Parser.bind_ok (Parser.item_cons _ _ _), Parser.bind_ok (Varint.parser_bytes hid _),
      Parser.bind_ok (Varint.parser_bytes hdependency _), List.cons_append,
      Parser.bind_ok (Parser.item_cons _ _ _), htype, htype']
    rfl
  | settings s =>
    refine ⟨_, hsize, ?_⟩
    have htotal : 0 + (settingsWire (writtenSettings s)).length =
        (Frame.settings s).sizeField.toNat := by rw [Nat.zero_add, hsize]; rfl
    have hloop := settings_loop (settingsWire_payload (written_lt h)) htotal {} rest
    rw [applySettings_written] at hloop
    exact Parser.bind_ok hloop
  | pushPromise pushId size =>
    have hid := hints pushId List.mem_cons_self
    have hlen := Varint.length_bytes_le_eight pushId
    refine ⟨UInt64.ofNat (Varint.bytes pushId).length, ?_, ?_⟩
    · rw [UInt64.toNat_ofNat', coded]
      omega
    · unfold coded payload
      dsimp only [type]
      rw [Parser.bind_ok (Parser.measure_ok (Varint.parser_bytes hid rest)), List.length_append,
        Nat.add_sub_cancel]
      have hle : ¬ (Frame.pushPromise pushId size).sizeField <
          UInt64.ofNat (Varint.bytes pushId).length := by
        rw [UInt64.lt_iff_toNat_lt, hsize, UInt64.toNat_ofNat', payloadLength, coded]
        omega
      have hsub : (Frame.pushPromise pushId size).sizeField -
          UInt64.ofNat (Varint.bytes pushId).length = size := by
        rw [sizeField, payloadLength, UInt64.ofNat_add, following, UInt64.ofNat_toNat, coded,
          UInt64.add_comm, UInt64.add_sub_cancel]
      unfold promise
      rw [if_neg hle, hsub]
      rfl
  | cancelPush pushId => exact ⟨_, hsize, hvarint (hints pushId List.mem_cons_self) _⟩
  | goaway streamId => exact ⟨_, hsize, hvarint (hints streamId List.mem_cons_self) _⟩
  | maxPushId pushId => exact ⟨_, hsize, hvarint (hints pushId List.mem_cons_self) _⟩
  | duplicatePush pushId => exact ⟨_, hsize, hvarint (hints pushId List.mem_cons_self) _⟩

/-- A known type is known. -/
theorem ofValue_value (type : FrameType) : FrameType.ofValue type.value = some type := by
  cases type <;> rfl

/-- **Decoding undoes encoding**, whatever follows. -/
theorem single_wire {frame : Frame} (h : frame.Encodable) (rest : List UInt8) :
    single (frame.wire ++ rest) = .ok (some frame, rest) := by
  obtain ⟨n, hn, hpayload⟩ := payload_coded h rest
  unfold single wire
  rw [List.append_assoc, List.append_assoc, Parser.bind_ok (Varint.parser_bytes (type_lt _) _),
    Parser.bind_ok (Varint.parser_bytes h.sizeField_lt _)]
  unfold body
  rw [ofValue_value]
  dsimp only
  rw [Parser.bind_ok (Parser.measure_ok hpayload), List.length_append, Nat.add_sub_cancel]
  unfold checkSize
  rw [if_neg (not_not.mpr hn.symm)]
  rfl

/-- `peek` sees the type of a frame that comes first. -/
theorem peekParser_wire (frame : Frame) (rest : List UInt8) :
    ∃ rest', peekParser (frame.wire ++ rest) = .ok (frame.type, rest') := by
  unfold wire
  rw [List.append_assoc]
  exact ⟨_, peekParser_of_known (Varint.parser_bytes (type_lt _) _) (ofValue_value _)⟩

/-! ## What the decoder yields -/

/-- A known frame that was read: its size and its payload, which passed the size check. -/
theorem of_single_some {b rest : List UInt8} {frame : Frame}
    (h : single b = .ok (some frame, rest)) :
    ∃ (type : FrameType) (size n : UInt64) (mid : List UInt8), size.toNat < 2 ^ 62 ∧
      payload type size mid = .ok ((frame, n), rest) ∧ mid.length - rest.length = n.toNat := by
  obtain ⟨v, b₁, -, h⟩ := Parser.bind_eq_ok.mp h
  obtain ⟨size, mid, hsize, h⟩ := Parser.bind_eq_ok.mp h
  unfold body at h
  cases ht : FrameType.ofValue v with
  | none =>
    rw [ht] at h
    obtain ⟨_, _, -, h⟩ := Parser.bind_eq_ok.mp h
    cases h
  | some type =>
    rw [ht] at h
    obtain ⟨⟨⟨f, n⟩, k⟩, r, hm, h⟩ := Parser.bind_eq_ok.mp h
    unfold checkSize at h
    split at h
    · cases h
    · next hcheck =>
      cases h
      cases hp : payload type size mid with
      | error e =>
        rw [Parser.measure_error hp] at hm
        cases hm
      | ok q =>
        obtain ⟨⟨f', n'⟩, r'⟩ := q
        rw [Parser.measure_ok hp] at hm
        cases hm
        exact ⟨type, size, n, mid, Varint.parser_value_lt hsize, hp, not_not.mp hcheck⟩

/-- Settings below 2^62. -/
def SettingsLt (s : Settings) : Prop := ∀ n ∈ s.array.map Prod.snd, n.toNat < 2 ^ 62

/-- A setting below 2^62 keeps the settings so. -/
theorem SettingsLt.update {s : Settings} (h : SettingsLt s) (id : UInt64) {value : UInt64}
    (hvalue : value.toNat < 2 ^ 62) : SettingsLt (updateSettings s id value) := by
  simp only [SettingsLt, Settings.array, List.map_cons, List.map_nil, List.forall_mem_cons,
    List.not_mem_nil, false_imp_iff, implies_true, and_true] at h ⊢
  obtain ⟨h₁, h₂, h₃, h₄⟩ := h
  unfold updateSettings
  split
  · exact ⟨hvalue, h₂, h₃, h₄⟩
  split
  · exact ⟨h₁, hvalue, h₃, h₄⟩
  split
  · exact ⟨h₁, h₂, hvalue, h₄⟩
  split
  · exact ⟨h₁, h₂, h₃, hvalue⟩
  · exact ⟨h₁, h₂, h₃, h₄⟩

theorem settingsLt_default : SettingsLt {} := by
  simp only [SettingsLt, Settings.array, List.map_cons, List.map_nil, List.forall_mem_cons,
    List.not_mem_nil, false_imp_iff, implies_true, and_true]
  decide

/-- The loop over the settings yields settings below 2^62: a varint holds no more, and the defaults
are below it. -/
theorem settingsLt_of_loop {size : UInt64} {n : Nat} {b rest : List UInt8} {s : Settings}
    (h : Parser.loop .incomplete (settingsRound size) (n, {}) b = .ok (s, rest)) :
    SettingsLt s := by
  refine Parser.loop_invariant (settingsRound_advances size) (P := fun s => SettingsLt s.2)
    ?_ ?_ settingsLt_default h
  · intro s b s' rest hs hround
    unfold settingsRound at hround
    split at hround
    · obtain ⟨r, mid, hm, hround⟩ := Parser.bind_eq_ok.mp hround
      cases hround
      cases hb : setting b with
      | error e =>
        rw [Parser.measure_error hb] at hm
        cases hm
      | ok q =>
        rw [Parser.measure_ok hb] at hm
        cases hm
        obtain ⟨id, b₁, -, hb⟩ := Parser.bind_eq_ok.mp hb
        obtain ⟨value, b₂, hvalue, hb⟩ := Parser.bind_eq_ok.mp hb
        have hq : (id, value) = q.1 := congrArg Prod.fst (Except.ok.inj hb)
        rw [← hq]
        exact hs.update _ (Varint.parser_value_lt hvalue)
    · cases hround
  · intro s b s' rest hs hround
    unfold settingsRound at hround
    split at hround
    · obtain ⟨_, _, -, hround⟩ := Parser.bind_eq_ok.mp hround
      cases hround
    · cases hround
      exact hs

/-- Two varints for each setting. -/
theorem length_settingsWire_le (settings : List (UInt64 × UInt64)) :
    (settingsWire settings).length ≤ 16 * settings.length := by
  induction settings with
  | nil => exact Nat.le_refl 0
  | cons setting settings ih =>
    have := Varint.length_bytes_le_eight setting.1
    have := Varint.length_bytes_le_eight setting.2
    have hlen : (settingsWire (setting :: settings)).length = (Varint.bytes setting.1).length +
        (Varint.bytes setting.2).length + (settingsWire settings).length := by
      rw [settingsWire, List.flatMap_cons, List.length_append, List.length_append]
      rfl
    rw [hlen, List.length_cons]
    omega

/-- A frame with one integer. -/
theorem encodable_integer {frame : Frame} {n : UInt64} (hint : frame.integers = [n])
    (hcoded : frame.payloadLength = (Varint.bytes n).length) (hn : n.toNat < 2 ^ 62) :
    frame.Encodable := by
  have := Varint.length_bytes_le_eight n
  refine ⟨fun v hv => ?_, by omega⟩
  rw [hint] at hv
  exact List.mem_singleton.mp hv ▸ hn

/-- **The decoder yields nothing that could not be encoded.** -/
theorem encodable_of_single {b rest : List UInt8} {frame : Frame}
    (h : single b = .ok (some frame, rest)) : frame.Encodable := by
  obtain ⟨type, size, n, mid, hsize, hp, hcheck⟩ := of_single_some h
  have hvarint {k : UInt64 → Frame × UInt64}
      (h : (Varint.parser >>= fun v => pure (k v)) mid = .ok ((frame, n), rest)) :
      ∃ v, v.toNat < 2 ^ 62 ∧ frame = (k v).1 := by
    obtain ⟨v, r, hv, hk⟩ := Parser.bind_eq_ok.mp h
    exact ⟨v, Varint.parser_value_lt hv, congrArg (fun q => q.1.1) (Except.ok.inj hk).symm⟩
  cases type with
  | data =>
    cases hp
    exact ⟨fun v hv => List.mem_singleton.mp hv ▸ hsize, by
      rw [payloadLength, coded, following, List.length_nil, Nat.zero_add]
      exact hsize⟩
  | headers =>
    cases hp
    exact ⟨fun v hv => List.mem_singleton.mp hv ▸ hsize, by
      rw [payloadLength, coded, following, List.length_nil, Nat.zero_add]
      exact hsize⟩
  | priority =>
    obtain ⟨byte, b₁, -, hp⟩ := Parser.bind_eq_ok.mp hp
    obtain ⟨id, b₂, hid, hp⟩ := Parser.bind_eq_ok.mp hp
    obtain ⟨dependency, b₃, hdependency, hp⟩ := Parser.bind_eq_ok.mp hp
    obtain ⟨weight, b₄, -, hp⟩ := Parser.bind_eq_ok.mp hp
    cases hp
    constructor
    · intro v hv
      rcases List.mem_cons.mp hv with rfl | hv
      · exact Varint.parser_value_lt hid
      · exact List.mem_singleton.mp hv ▸ Varint.parser_value_lt hdependency
    · have := Varint.length_bytes_le_eight id
      have := Varint.length_bytes_le_eight dependency
      simp only [payloadLength, coded, following, List.length_cons, List.length_append,
        List.length_nil]
      omega
  | settings =>
    obtain ⟨s, b₁, hloop, hp⟩ := Parser.bind_eq_ok.mp hp
    cases hp
    refine ⟨settingsLt_of_loop hloop, ?_⟩
    have hlen := length_settingsWire_le (writtenSettings s)
    have hfour : (writtenSettings s).length ≤ 4 := List.length_filter_le _ _
    have hlength : (Frame.settings s).payloadLength = (settingsWire (writtenSettings s)).length := rfl
    omega
  | pushPromise =>
    obtain ⟨⟨id, k⟩, b₁, hm, hp⟩ := Parser.bind_eq_ok.mp hp
    cases hid : Varint.parser mid with
    | error e =>
      rw [Parser.measure_error hid] at hm
      cases hm
    | ok q =>
      rw [Parser.measure_ok hid] at hm
      cases hm
      obtain ⟨c, j, rfl, hj, hlen, hlt⟩ := Varint.parser_splits hid
      have hle := Varint.length_bytes_le hj hlt
      have hj8 : 2 ^ j ≤ 2 ^ 3 := Nat.pow_le_pow_right (by decide) (Nat.le_of_lt_succ hj)
      rw [List.length_append, Nat.add_sub_cancel, hlen] at hp
      have hk : (UInt64.ofNat (2 ^ j)).toNat = 2 ^ j := by
        rw [UInt64.toNat_ofNat']
        omega
      unfold promise at hp
      dsimp only at hp
      split at hp
      · -- the identifier is longer than the payload: the size check has failed
        next hshort =>
        cases hp
        rw [List.length_append, Nat.add_sub_cancel, hlen] at hcheck
        rw [UInt64.lt_iff_toNat_lt, hk] at hshort
        omega
      · next hlong =>
        cases hp
        rw [UInt64.lt_iff_toNat_lt, hk, Nat.not_lt] at hlong
        have hsub : (size - UInt64.ofNat (2 ^ j)).toNat = size.toNat - 2 ^ j := by
          rw [UInt64.toNat_sub_of_le _ _ (UInt64.le_iff_toNat_le.mpr (by rwa [hk])), hk]
        constructor
        · intro v hv
          rcases List.mem_cons.mp hv with rfl | hv
          · exact Varint.parser_value_lt hid
          · rw [List.mem_singleton.mp hv, hsub]
            omega
        · rw [payloadLength, coded, following, hsub]
          omega
  | cancelPush =>
    obtain ⟨v, hv, rfl⟩ := hvarint hp
    exact encodable_integer rfl rfl hv
  | goaway =>
    obtain ⟨v, hv, rfl⟩ := hvarint hp
    exact encodable_integer rfl rfl hv
  | maxPushId =>
    obtain ⟨v, hv, rfl⟩ := hvarint hp
    exact encodable_integer rfl rfl hv
  | duplicatePush =>
    obtain ⟨v, hv, rfl⟩ := hvarint hp
    exact encodable_integer rfl rfl hv

/-- The same of a frame behind unknown ones. -/
theorem encodable_of_decodeBytes {b rest : List UInt8} {frame : Frame}
    (h : decodeBytes b = (.ok frame, rest)) : frame.Encodable := by
  induction b using decodeBytes.induct with
  | case1 b frame' rest' hs =>
    rw [decodeBytes_some hs] at h
    cases h
    exact encodable_of_single hs
  | case2 b rest' hs ih =>
    rw [decodeBytes_none hs] at h
    exact ih h
  | case3 b e hs =>
    rw [decodeBytes_error hs] at h
    cases h

/-- **The frame codec round trip.** Where integers and length fit, size, encoder, decoder and `peek`
agree on one byte string, whatever follows it; and the decoder yields only frames that fit. -/
theorem round_trip {σ β : Type} [Storage β] [Sequence σ β] :
    (∀ frame : Frame, frame.Encodable → ∃ bs : List UInt8,
      frame.encodedSize = .ok bs.length ∧
      (∀ m start, frame.encode m start = .ok (bs.length, m.store start bs)) ∧
      (∀ host, frame.encodeBuffer host = .ok ⟨bs⟩) ∧
      ∀ (s : σ) (suffix : List UInt8), Sequence.bytes s = bs ++ suffix →
        (∃ s', decode s = (.ok frame, s') ∧ Sequence.bytes s' = suffix) ∧
          peek s = .ok frame.type) ∧
    ∀ (s s' : σ) (frame : Frame), decode s = (.ok frame, s') → frame.Encodable := by
  constructor
  · intro frame h
    refine ⟨frame.wire, encodedSize_eq h, encode_eq h, encodeBuffer_eq h, fun s suffix hs => ?_⟩
    constructor
    · refine decode_of_bytes ?_
      rw [hs, decodeBytes_some (single_wire h suffix)]
    · obtain ⟨rest, hpeek⟩ := peekParser_wire frame suffix
      rw [peek_eq, hs, hpeek]
      rfl
  · intro s s' frame h
    have hb := decode_bytes s
    rw [h] at hb
    exact encodable_of_decodeBytes hb.symm

/-- A PRIORITY frame with identifiers of four and of eight bytes. -/
theorem round_trip_priority :
    let frame : Frame := .priority {
      prioritizedElementType := .current, elementDependencyType := .placeholder,
      prioritizedElementId := 16482, elementDependencyId := 1073781823, weight := 43 }
    ∃ bs : List UInt8, frame.encodedSize = .ok bs.length ∧
      ∃ s', decode (⟨bs ++ [0, 0]⟩ : Buffer) = (.ok frame, s') ∧ s'.bytes = [0, 0] := by
  intro frame
  obtain ⟨bs, hsize, -, -, hdecode⟩ := (round_trip (σ := Buffer)).1 frame (by decide)
  exact ⟨bs, hsize, (hdecode ⟨bs ++ [0, 0]⟩ [0, 0] rfl).1⟩

end Frame

end Bnl.Http3
