import Bnl.Laws.FrameWire

/-!
# The length of a frame

The length of a payload is added up in 64 bits before its range is checked. Only a PUSH_PROMISE frame has two
terms of which one is of any size, so only there the sum can wrap and pass the check.

**The law** is `lengthSound_iff`, over all frames, fields out of range among them. Sound is a frame for which
the announced size and the encoder agree in one of two ways: both fail with an overflow, or both succeed and the
length in the bytes is that of the payload. The true length is a sum of natural numbers (`payloadLength`), so
the comparison is with what the frame means and not with what the machine adds.

A frame that does not wrap is `Encodable`, where `FrameWire` says all there is to say, or something in it is no
varint, where both fail (`overflow_of_not_encodable`).
-/

namespace Bnl.Http3

open Bnl.Base

namespace Varint

/-- A number of bytes, or no number at all. -/
theorem encodedSize_cases (v : UInt64) :
    v.toNat < 2 ^ 62 ∧ encodedSize v = .ok (bytes v).length ∨
      2 ^ 62 ≤ v.toNat ∧ encodedSize v = .error .varintOverflow := by
  rcases Nat.lt_or_ge v.toNat (2 ^ 62) with h | h
  · exact .inl ⟨h, encodedSize_eq h⟩
  · exact .inr ⟨h, encodedSize_overflow h⟩

/-- The encoder fails where the size does. -/
theorem encode_overflow {v : UInt64} (h : 2 ^ 62 ≤ v.toNat) (m : Memory) (dest : Nat) :
    encode m dest v = .error .varintOverflow := by
  unfold encode
  rw [encodedSize_overflow h]
  rfl

end Varint

namespace Frame

/-- The size and the encoder agree: both succeed, the integers and the length of the payload fit in
varints and the length that is written is that of the payload, or both overflow. -/
def LengthSound (frame : Frame) : Prop :=
  ∀ m start,
    (∃ n m', frame.encodedSize = .ok n ∧ frame.encode m start = .ok (n, m') ∧
      (∀ v ∈ frame.integers, v.toNat < 2 ^ 62) ∧ frame.payloadLength < 2 ^ 62 ∧
      ∃ length s', Varint.decode (⟨m'.load (start + 1) (n - 1)⟩ : Buffer) = (.ok length, s') ∧
        length.toNat = frame.payloadLength) ∨
    frame.encodedSize = .error .varintOverflow ∧ frame.encode m start = .error .varintOverflow

/-- The size of a header block wraps with that of the push id in front of it. -/
def Wraps : Frame → Prop
  | .pushPromise pushId size =>
    pushId.toNat < 2 ^ 62 ∧ 2 ^ 64 ≤ (Varint.bytes pushId).length + size.toNat
  | _ => False

/-! ## Frames that overflow -/

/-- What fails in the size of the payload fails in both. -/
theorem overflow_of_payloadSize {frame : Frame} (h : frame.payloadSize = .error .varintOverflow)
    (m : Memory) (start : Nat) : frame.encodedSize = .error .varintOverflow ∧
      frame.encode m start = .error .varintOverflow := by
  unfold encodedSize encode
  rw [h]
  exact ⟨rfl, rfl⟩

/-- A length that is no varint fails in both. -/
theorem overflow_of_length {frame : Frame} {size : UInt64} (h : frame.payloadSize = .ok size)
    (hpush : ∀ pushId k, frame = .pushPromise pushId k → pushId.toNat < 2 ^ 62) (hsize : 2 ^ 62 ≤ size.toNat)
    (m : Memory) (start : Nat) : frame.encodedSize = .error .varintOverflow ∧
      frame.encode m start = .error .varintOverflow := by
  have hfails (x : Except Error Nat) (n : Nat) (hx : x = .ok n) : (do
      let payloadEncodedSize ← x
      let typeSize ← Varint.encodedSize frame.type.value
      let sizeSize ← Varint.encodedSize size
      pure (typeSize + sizeSize + payloadEncodedSize)) = .error Error.varintOverflow := by
    rw [hx, Varint.encodedSize_eq (type_lt _), Varint.encodedSize_overflow hsize]
    rfl
  constructor
  · unfold encodedSize
    rw [h]
    cases frame with
    | pushPromise pushId k => exact hfails _ _ (Varint.encodedSize_eq (hpush pushId k rfl))
    | data _ => exact hfails (.ok 0) 0 rfl
    | headers _ => exact hfails (.ok 0) 0 rfl
    | priority _ => exact hfails (.ok size.toNat) _ rfl
    | cancelPush _ => exact hfails (.ok size.toNat) _ rfl
    | settings _ => exact hfails (.ok size.toNat) _ rfl
    | goaway _ => exact hfails (.ok size.toNat) _ rfl
    | maxPushId _ => exact hfails (.ok size.toNat) _ rfl
    | duplicatePush _ => exact hfails (.ok size.toNat) _ rfl
  · unfold encode
    rw [h]
    dsimp only [Bind.bind, Except.bind]
    rw [Varint.encode_eq (type_lt _)]
    dsimp only
    rw [Varint.encode_overflow hsize]

/-- A frame of which only the size is coded here is encoded, or its size is no varint. -/
theorem encodeBuffer_size (host : Host) {frame : Frame} {size : UInt64}
    (h : frame = .data size ∨ frame = .headers size) :
    frame.encodeBuffer host =
      if size.toNat < 2 ^ 62 then .ok ⟨frame.wire⟩ else .error .varintOverflow := by
  have hints : frame.integers = [size] := by rcases h with rfl | rfl <;> rfl
  have hlength : frame.payloadLength = size.toNat := by
    rcases h with rfl | rfl <;> exact Nat.zero_add _
  by_cases hlt : size.toNat < 2 ^ 62
  · rw [if_pos hlt]
    refine encodeBuffer_eq ⟨fun n hn => ?_, hlength ▸ hlt⟩ host
    rw [hints] at hn
    exact List.mem_singleton.mp hn ▸ hlt
  · have hsize : frame.payloadSize = .ok size := by rcases h with rfl | rfl <;> rfl
    have hpush (pushId k : UInt64) (heq : frame = .pushPromise pushId k) : pushId.toNat < 2 ^ 62 := by
      rcases h with rfl | rfl <;> cases heq
    rw [if_neg hlt, encodeBuffer, (overflow_of_length hsize hpush (Nat.not_lt.mp hlt) Memory.zero 0).1]
    rfl

/-- A setting that is no varint fails. -/
theorem settingsSize_overflow {settings : List (UInt64 × UInt64)}
    (h : ∃ setting ∈ settings, 2 ^ 62 ≤ setting.1.toNat ∨ 2 ^ 62 ≤ setting.2.toNat) (size : UInt64) :
    settingsSize settings size = .error .varintOverflow := by
  induction settings generalizing size with
  | nil =>
    obtain ⟨setting, hmem, -⟩ := h
    cases hmem
  | cons setting rest ih =>
    unfold settingsSize
    rcases Varint.encodedSize_cases setting.1 with ⟨hid, hok⟩ | ⟨-, herror⟩
    · rw [hok]
      rcases Varint.encodedSize_cases setting.2 with ⟨hvalue, hok'⟩ | ⟨-, herror⟩
      · rw [hok']
        refine ih ?_ _
        obtain ⟨found, hmem, hfound⟩ := h
        rcases List.mem_cons.mp hmem with rfl | hmem
        · omega
        · exact ⟨found, hmem, hfound⟩
      · rw [herror]
        rfl
    · rw [herror]
      rfl

/-- A frame whose length does not wrap is encoded or overflows. -/
theorem overflow_of_not_encodable {frame : Frame} (hwraps : ¬ frame.Wraps) (h : ¬ frame.Encodable)
    (m : Memory) (start : Nat) : frame.encodedSize = .error .varintOverflow ∧
      frame.encode m start = .error .varintOverflow := by
  have hvarint {n : UInt64} (hints : frame.integers = [n])
      (hcoded : frame.payloadLength = (Varint.bytes n).length) :
      (do pure (UInt64.ofNat (← Varint.encodedSize n)) : Except Error UInt64) =
        .error .varintOverflow := by
    rcases Varint.encodedSize_cases n with ⟨hn, -⟩ | ⟨-, herror⟩
    · exact absurd (encodable_integer hints hcoded hn) h
    · rw [herror]
      rfl
  cases frame with
  | data size =>
    have hlength : (Frame.data size).payloadLength = size.toNat := Nat.zero_add _
    refine overflow_of_length rfl (fun _ _ heq => by cases heq)
      (Nat.not_lt.mp fun hlt => h ⟨fun n hn => ?_, ?_⟩) m start
    · exact List.mem_singleton.mp hn ▸ hlt
    · exact Nat.lt_of_le_of_lt (Nat.le_of_eq hlength) hlt
  | headers size =>
    have hlength : (Frame.headers size).payloadLength = size.toNat := Nat.zero_add _
    refine overflow_of_length rfl (fun _ _ heq => by cases heq)
      (Nat.not_lt.mp fun hlt => h ⟨fun n hn => ?_, ?_⟩) m start
    · exact List.mem_singleton.mp hn ▸ hlt
    · exact Nat.lt_of_le_of_lt (Nat.le_of_eq hlength) hlt
  | priority p =>
    refine overflow_of_payloadSize ?_ m start
    unfold payloadSize
    dsimp only
    rcases Varint.encodedSize_cases p.prioritizedElementId with ⟨hid, hok⟩ | ⟨-, herror⟩
    · rw [hok]
      rcases Varint.encodedSize_cases p.elementDependencyId with ⟨hdependency, -⟩ | ⟨-, herror⟩
      · refine absurd ⟨fun n hn => ?_, ?_⟩ h
        · rcases List.mem_cons.mp hn with rfl | hn
          · exact hid
          · exact List.mem_singleton.mp hn ▸ hdependency
        · have := Varint.length_bytes_le_eight p.prioritizedElementId
          have := Varint.length_bytes_le_eight p.elementDependencyId
          simp only [payloadLength, coded, following, List.length_cons, List.length_append,
            List.length_nil]
          omega
      · rw [herror]
        rfl
    · rw [herror]
      rfl
  | settings s =>
    have hoverflow (hlarge : ∃ setting ∈ writtenSettings s,
        2 ^ 62 ≤ setting.1.toNat ∨ 2 ^ 62 ≤ setting.2.toNat) :
        (Frame.settings s).payloadSize = .error .varintOverflow := settingsSize_overflow hlarge 0
    refine overflow_of_payloadSize (hoverflow ?_) m start
    refine Classical.byContradiction fun hnone => h ⟨fun n hn => ?_, ?_⟩
    · obtain ⟨setting, hmem, rfl⟩ := List.mem_map.mp hn
      refine Nat.not_le.mp fun hle => hnone ⟨setting, List.mem_filter.mpr ⟨hmem, ?_⟩, .inr hle⟩
      -- a large setting is not one that is left out
      rw [Bool.not_eq_true', Bool.and_eq_false_iff]
      refine .inr (beq_eq_false_iff_ne.mpr fun hzero => ?_)
      rw [hzero] at hle
      exact absurd hle (by decide)
    · have hle := length_settingsWire_le (writtenSettings s)
      have hfilter : (writtenSettings s).length ≤ s.array.length := List.length_filter_le _ _
      have harray : s.array.length = 4 := rfl
      simp only [payloadLength, coded, following]
      omega
  | pushPromise pushId size =>
    rcases Varint.encodedSize_cases pushId with ⟨hid, hok⟩ | ⟨-, herror⟩
    · have hpayload : (Frame.pushPromise pushId size).payloadSize =
          .ok (UInt64.ofNat (Varint.bytes pushId).length + size) := by
        unfold payloadSize
        dsimp only
        rw [hok]
        rfl
      refine overflow_of_length hpayload (fun _ _ heq => by cases heq; exact hid) ?_ m start
      have hlt : (Varint.bytes pushId).length + size.toNat < 2 ^ 64 := Nat.not_le.mp fun hle => hwraps ⟨hid, hle⟩
      have hsum : (UInt64.ofNat (Varint.bytes pushId).length + size).toNat =
          (Varint.bytes pushId).length + size.toNat := by
        rw [UInt64.toNat_add, UInt64.toNat_ofNat']
        omega
      rw [hsum]
      refine Nat.not_lt.mp fun hfits => h ⟨fun n hn => ?_, hfits⟩
      rcases List.mem_cons.mp hn with rfl | hn
      · exact hid
      · exact List.mem_singleton.mp hn ▸ Nat.lt_of_le_of_lt (Nat.le_add_left _ _) hfits
    · refine overflow_of_payloadSize ?_ m start
      unfold payloadSize
      dsimp only
      rw [herror]
      rfl
  | cancelPush pushId =>
    have hoverflow : (Frame.cancelPush pushId).payloadSize = .error .varintOverflow := hvarint rfl rfl
    exact overflow_of_payloadSize hoverflow m start
  | goaway streamId =>
    have hoverflow : (Frame.goaway streamId).payloadSize = .error .varintOverflow := hvarint rfl rfl
    exact overflow_of_payloadSize hoverflow m start
  | maxPushId pushId =>
    have hoverflow : (Frame.maxPushId pushId).payloadSize = .error .varintOverflow := hvarint rfl rfl
    exact overflow_of_payloadSize hoverflow m start
  | duplicatePush pushId =>
    have hoverflow : (Frame.duplicatePush pushId).payloadSize = .error .varintOverflow := hvarint rfl rfl
    exact overflow_of_payloadSize hoverflow m start

/-! ## Frames that fit -/

/-- Behind the type and the size of a frame, as it is written. -/
theorem load_wire {frame : Frame} (h : frame.Encodable) (m : Memory) (start : Nat) :
    ∃ length s', Varint.decode
        (⟨(m.store start frame.wire).load (start + 1) (frame.wire.length - 1)⟩ : Buffer) = (.ok length, s') ∧
      length.toNat = frame.payloadLength := by
  obtain ⟨type, htype⟩ : ∃ type, Varint.bytes frame.type.value = [type] := by
    cases frame.type <;> exact ⟨_, rfl⟩
  have hwire : frame.wire = type :: (Varint.bytes frame.sizeField ++ frame.coded) := by
    unfold wire
    rw [htype]
    rfl
  have hload : (m.store start frame.wire).load (start + 1) (frame.wire.length - 1) =
      Varint.bytes frame.sizeField ++ frame.coded := by
    rw [hwire, Memory.store_cons, List.length_cons, Nat.add_sub_cancel, Memory.load_store]
  have hread := Varint.parser_bytes h.sizeField_lt frame.coded
  rw [hload, Varint.decode_eq,
    Sequence.read_ok (s := (⟨Varint.bytes frame.sizeField ++ frame.coded⟩ : Buffer)) hread]
  exact ⟨_, _, rfl, h.sizeField_toNat⟩

/-- **The length of a payload wraps only where a PUSH_PROMISE frame announces one that wraps with its
push id.** -/
theorem lengthSound_iff (frame : Frame) : frame.LengthSound ↔ ¬ frame.Wraps := by
  constructor
  · intro hsound hwraps
    cases frame with
    | pushPromise pushId size =>
      obtain ⟨hid, hwrap⟩ := hwraps
      rcases hsound Memory.zero 0 with ⟨n, m', -, -, -, hlength, -⟩ | ⟨herror, -⟩
      · have hle : 2 ^ 64 ≤ (Frame.pushPromise pushId size).payloadLength := hwrap
        omega
      · -- the sum wraps to a number that is a varint
        have height := Varint.length_bytes_le_eight pushId
        have hlt := size.toNat_lt
        have hsum : (UInt64.ofNat (Varint.bytes pushId).length + size).toNat < 2 ^ 62 := by
          rw [UInt64.toNat_add, UInt64.toNat_ofNat']
          omega
        unfold encodedSize payloadSize at herror
        dsimp only at herror
        rw [Varint.encodedSize_eq hid] at herror
        simp only [Bind.bind, Except.bind, pure, Except.pure] at herror
        rw [Varint.encodedSize_eq (type_lt _), Varint.encodedSize_eq hsum] at herror
        cases herror
    | data _ => exact hwraps
    | headers _ => exact hwraps
    | priority _ => exact hwraps
    | cancelPush _ => exact hwraps
    | settings _ => exact hwraps
    | goaway _ => exact hwraps
    | maxPushId _ => exact hwraps
    | duplicatePush _ => exact hwraps
  · intro hwraps m start
    by_cases h : frame.Encodable
    · exact .inl ⟨_, _, encodedSize_eq h, encode_eq h m start, h.integers, h.length, load_wire h m start⟩
    · exact .inr (overflow_of_not_encodable hwraps h m start)

/-- A promise whose block is as long as can be: both succeed, and the length written is 0. -/
theorem lengthSound_not : ¬ (Frame.pushPromise 0 0xffffffffffffffff).LengthSound := by
  intro h
  rcases h Memory.zero 0 with ⟨n, m', -, -, -, hlength, -⟩ | ⟨herror, -⟩
  · exact absurd hlength (by decide)
  · exact absurd herror (by decide)

end Frame

end Bnl.Http3
