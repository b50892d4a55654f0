import Bnl.Codec.Fresh
import Bnl.Laws.BlockSize
import Bnl.Laws.Exact
import Bnl.Laws.FrameLength

/-!
# What an encoder takes from the storage of its buffer

All that is written in full is the same whatever the buffer held. Only the first byte of a prefix integer is
read before it is written, and a buffer for a prefix integer is always one whose first byte is clear. A literal
may be longer: what is above its flag, and the flag itself in the plain form, is then what the heap held.

**The law** is `independent_iff`, over all the encoders that return a buffer: two runs that differ in nothing
but the storage return the same bytes, exactly where all bits of the first byte are set, by the constructor or
by the encoder. It is a law of two runs, and both are of the code; that the bytes are the right ones is not part
of it.

For all encoders but the literal's the bytes are computed and the storage is not in them. For the literal they
are a function of the first byte of the storage (`Literal.encodeBuffer_eq`), and when that function is constant
is `Literal.bytes_const_iff`. A buffer of up to twenty bytes lies inside the object, and there the byte is zero.
-/

namespace Bnl.Http3

open Bnl.Base

namespace Qpack.PrefixInt

/-- What is above the prefix is all that matters of the byte that was there. -/
theorem bytes_eq_iff (first first' : UInt8) (value : UInt64) (width : UInt8) :
    bytes first value width = bytes first' value width ↔
      first &&& ~~~(prefixMax width) = first' &&& ~~~(prefixMax width) := by
  constructor
  · intro h
    obtain ⟨byte, tl, hbytes, habove⟩ := bytes_head first value width
    obtain ⟨byte', tl', hbytes', habove'⟩ := bytes_head first' value width
    have hhead : byte = byte' := (List.cons.inj (hbytes.symm.trans (h.trans hbytes'))).1
    rw [← habove, ← habove', hhead]
  · intro h
    have hor (b : UInt8) : b ||| prefixMax width = (b &&& ~~~(prefixMax width)) ||| prefixMax width := by
      apply UInt8.toBitVec_inj.mp
      ext i hi
      simp only [UInt8.toBitVec_and, UInt8.toBitVec_or, UInt8.toBitVec_not, BitVec.getElem_and,
        BitVec.getElem_or, BitVec.getElem_not]
      cases (prefixMax width).toBitVec[i] <;> simp
    unfold bytes
    rw [hor first, hor first', h]

/-- Each digit takes seven bits off. -/
theorem length_digits_le {value : UInt64} {k : Nat} (h : value.toNat < 2 ^ (7 * (k + 1))) :
    (digits value).length ≤ k + 1 := by
  induction k generalizing value with
  | zero =>
    have hlt : ¬ 128 ≤ value := fun hle => absurd (UInt64.le_iff_toNat_le.mp hle) (Nat.not_le.mpr h)
    rw [digits_of_lt hlt]
    exact Nat.le_refl 1
  | succ k ih =>
    by_cases hge : 128 ≤ value
    · rw [digits_of_ge hge, List.length_cons]
      refine Nat.succ_le_succ (ih ?_)
      rw [UInt64.toNat_div]
      refine Nat.div_lt_of_lt_mul ?_
      calc value.toNat < 2 ^ (7 * (k + 1) + 7) := h
        _ = 2 ^ 7 * 2 ^ (7 * (k + 1)) := by rw [Nat.pow_add, Nat.mul_comm]
    · rw [digits_of_lt hge]
      exact Nat.succ_le_succ (Nat.zero_le _)

/-- A prefix integer fits in a short buffer. -/
theorem encodedSize_le (value : UInt64) (width : UInt8) : encodedSize value width ≤ 11 := by
  rw [encodedSize_eq 0, bytes]
  split
  · exact Nat.le_of_ble_eq_true rfl
  · rw [List.length_cons]
    refine Nat.succ_le_succ (length_digits_le (k := 9) (Nat.lt_of_lt_of_le (UInt64.toNat_lt _) ?_))
    exact Nat.pow_le_pow_right (by decide) (by decide)

end Qpack.PrefixInt

namespace Qpack

/-! ## The encoders of `qpack` -/

/-- A prefix integer is written over a zero byte. -/
theorem PrefixInt.encodeBuffer_eq (host : Host) (value : UInt64) (width : UInt8) :
    encodeBuffer host value width = ⟨bytes 0 value width⟩ := by
  have hshort : Storage.Buffer.sso (encodedSize value width) = true :=
    decide_eq_true (Nat.le_trans (encodedSize_le value width) (by decide))
  have hfirst : (host.buffer (encodedSize value width)).get 0 = 0 := if_pos ⟨hshort, by decide⟩
  have hstore := encode_store (host.buffer (encodedSize value width)) 0 value width
  rw [hfirst] at hstore
  exact congrArg Buffer.mk hstore

/-- A Huffman string is written in full. -/
theorem Huffman.encodeBuffer_eq (host : Host) (string : List UInt8) :
    encodeBuffer host string = ⟨wire string⟩ := by
  unfold encodeBuffer
  dsimp only
  rw [encode_eq, encodedSize_eq]
  dsimp only
  rw [Memory.load_store]

/-- What the encoder leaves in the memory it announced. -/
theorem Literal.encode_store (m : Memory) (dest : Nat) (literal : List UInt8) (width : UInt8) :
    (encode m dest literal width).2.load dest (encodedSize literal width) =
      bytes (m.get dest) literal width := by
  rw [encode_eq, encodedSize_eq (m.get dest), Memory.load_store]

/-- A literal is written over the first byte of its buffer. -/
theorem Literal.encodeBuffer_eq (host : Host) (literal : List UInt8) (width : UInt8) :
    encodeBuffer host literal width =
      ⟨bytes ((host.buffer (encodedSize literal width)).get 0) literal width⟩ :=
  congrArg Buffer.mk (encode_store _ 0 literal width)

/-- Of a literal all bits are written: those of its flag in the Huffman form, where no bit is above it. -/
def Literal.Covers (literal : List UInt8) (width : UInt8) : Prop :=
  width = 7 ∧ Huffman.encodedSize literal < literal.length

/-- The form is the Huffman form where that is the shorter one. -/
theorem Literal.literalEncodedSize_lt_iff (literal : List UInt8) :
    literalEncodedSize literal < literal.length ↔ Huffman.encodedSize literal < literal.length := by
  unfold literalEncodedSize
  dsimp only
  split
  · exact Iff.rfl
  · next h => exact iff_of_false (Nat.lt_irrefl _) h

/-- The highest bit is above the prefix. -/
theorem Literal.top_above {width : UInt8} (h : width.toNat < 8) :
    (0 : UInt8) &&& ~~~(PrefixInt.prefixMax width) ≠ 0x80 &&& ~~~(PrefixInt.prefixMax width) := by
  have hall : ∀ w : Fin 8, (0 : UInt8) &&& ~~~(PrefixInt.prefixMax (UInt8.ofNat w.val)) ≠
      0x80 &&& ~~~(PrefixInt.prefixMax (UInt8.ofNat w.val)) := by decide
  have habove := hall ⟨width.toNat, h⟩
  rwa [UInt8.ofNat_toNat] at habove

/-- Unless it is the flag, it is above that too. -/
theorem Literal.top_above_flag {width : UInt8} (h : width.toNat < 7) :
    ((0 : UInt8) ||| flagBit width) &&& ~~~(PrefixInt.prefixMax width) ≠
      (0x80 ||| flagBit width) &&& ~~~(PrefixInt.prefixMax width) := by
  have hall : ∀ w : Fin 7, ((0 : UInt8) ||| flagBit (UInt8.ofNat w.val)) &&&
        ~~~(PrefixInt.prefixMax (UInt8.ofNat w.val)) ≠
      (0x80 ||| flagBit (UInt8.ofNat w.val)) &&& ~~~(PrefixInt.prefixMax (UInt8.ofNat w.val)) := by decide
  have habove := hall ⟨width.toNat, h⟩
  rwa [UInt8.ofNat_toNat] at habove

/-- Where the flag is the highest bit, it is all that is above the prefix. -/
theorem Literal.flag_above (first : UInt8) :
    (first ||| flagBit 7) &&& ~~~(PrefixInt.prefixMax 7) = 0x80 := PrefixInt.or_mask first 0x80

/-- What a literal says of the byte that was there: nothing if and only if all its bits are written. -/
theorem Literal.bytes_const_iff (literal : List UInt8) {width : UInt8} (h : width.toNat < 8) :
    (∀ first first', bytes first literal width = bytes first' literal width) ↔ Covers literal width := by
  unfold bytes
  constructor
  · intro hconst
    have htop := hconst 0 0x80
    by_cases hform : literalEncodedSize literal < literal.length
    · rw [if_pos hform, if_pos hform] at htop
      have habove := (PrefixInt.bytes_eq_iff _ _ _ _).mp (List.append_cancel_right htop)
      refine ⟨UInt8.toNat.inj (Classical.byContradiction fun hne => ?_), (literalEncodedSize_lt_iff literal).mp hform⟩
      exact top_above_flag (Nat.lt_of_le_of_ne (Nat.le_of_lt_succ h) hne) habove
    · rw [if_neg hform, if_neg hform] at htop
      exact absurd ((PrefixInt.bytes_eq_iff _ _ _ _).mp (List.append_cancel_right htop)) (top_above h)
  · rintro ⟨rfl, hform⟩ first first'
    rw [if_pos ((literalEncodedSize_lt_iff literal).mpr hform)]
    rw [if_pos ((literalEncodedSize_lt_iff literal).mpr hform)]
    rw [(PrefixInt.bytes_eq_iff _ _ _ _).mpr ((flag_above first).trans (flag_above first').symm)]

end Qpack

/-! ## Frames -/

namespace Frame

/-- A promise is written in full, also where the size of its payload has wrapped. -/
theorem encodeBuffer_pushPromise {pushId size payload : UInt64} (hid : pushId.toNat < 2 ^ 62)
    (hpayload : payload = UInt64.ofNat (Varint.bytes pushId).length + size) (hlt : payload.toNat < 2 ^ 62)
    (host : Host) : (Frame.pushPromise pushId size).encodeBuffer host =
      .ok ⟨Varint.bytes FrameType.pushPromise.value ++ Varint.bytes payload ++ Varint.bytes pushId⟩ := by
  have hsize : (Frame.pushPromise pushId size).payloadSize = .ok payload := by
    unfold payloadSize
    dsimp only
    rw [Varint.encodedSize_eq hid, hpayload]
    rfl
  have hencoded : (Frame.pushPromise pushId size).encodedSize =
      .ok ((Varint.bytes FrameType.pushPromise.value).length + (Varint.bytes payload).length +
        (Varint.bytes pushId).length) := by
    unfold encodedSize
    rw [hsize]
    dsimp only [Bind.bind, Except.bind]
    rw [Varint.encodedSize_eq hid]
    dsimp only
    rw [Varint.encodedSize_eq (type_lt _)]
    dsimp only
    rw [Varint.encodedSize_eq hlt]
    rfl
  unfold encodeBuffer
  rw [hencoded]
  unfold encode
  rw [hsize]
  dsimp only [Bind.bind, Except.bind]
  rw [Varint.encode_eq (type_lt _)]
  dsimp only
  rw [Varint.encode_eq hlt]
  dsimp only
  rw [show encodePayload _ _ (Frame.pushPromise pushId size) = _ from encodePayload_varint hid _ _]
  have hload := Memory.load_store host.storage 0
    (Varint.bytes FrameType.pushPromise.value ++ Varint.bytes payload ++ Varint.bytes pushId)
  rw [Memory.store_append, Memory.store_append, List.length_append, List.length_append,
    List.length_append, ← Nat.add_assoc] at hload
  exact congrArg (fun bs => Except.ok (Buffer.mk bs)) hload

/-- What a frame is written as does not depend on the storage. -/
theorem encodeBuffer_congr (frame : Frame) (host host' : Host) :
    frame.encodeBuffer host = frame.encodeBuffer host' := by
  by_cases h : frame.Encodable
  · rw [encodeBuffer_eq h, encodeBuffer_eq h]
  · by_cases hwraps : frame.Wraps
    · cases frame with
      | pushPromise pushId size =>
        obtain ⟨hid, hwrap⟩ := hwraps
        -- the sum wraps to a number that is a varint
        have hlt : (UInt64.ofNat (Varint.bytes pushId).length + size).toNat < 2 ^ 62 := by
          have height := Varint.length_bytes_le_eight pushId
          have hsize := size.toNat_lt
          rw [UInt64.toNat_add, UInt64.toNat_ofNat']
          omega
        rw [encodeBuffer_pushPromise hid rfl hlt, encodeBuffer_pushPromise hid rfl hlt]
      | data _ => exact hwraps.elim
      | headers _ => exact hwraps.elim
      | priority _ => exact hwraps.elim
      | cancelPush _ => exact hwraps.elim
      | settings _ => exact hwraps.elim
      | goaway _ => exact hwraps.elim
      | maxPushId _ => exact hwraps.elim
      | duplicatePush _ => exact hwraps.elim
    · unfold encodeBuffer
      rw [(overflow_of_not_encodable hwraps h Memory.zero 0).1]
      rfl

end Frame

/-! ## The encoders that return a buffer -/

/-- A call of one of them; that of `qpack::encoder` on an encoder in this state. -/
inductive Encode where
  | varint (value : UInt64)
  | frame (frame : Frame)
  | prefixInt (value : UInt64) (width : UInt8)
  | huffman (string : List UInt8)
  | literal (string : List UInt8) (width : UInt8)
  | qpack (e : Qpack.Encoder) (header : Header)

/-- What the call returns. -/
def Encode.run (host : Host) : Encode → Except Error Buffer
  | .varint value => Varint.encodeBuffer host value
  | .frame f => f.encodeBuffer host
  | .prefixInt value width => .ok (Qpack.PrefixInt.encodeBuffer host value width)
  | .huffman string => .ok (Qpack.Huffman.encodeBuffer host string)
  | .literal string width => .ok (Qpack.Literal.encodeBuffer host string width)
  | .qpack e header => (e.encodeBuffer host header).1

/-- The prefix is one that the call can be made with. -/
def Encode.InRange : Encode → Prop
  | .prefixInt _ width => 1 ≤ width ∧ width ≤ 8
  | .literal _ width => 1 ≤ width ∧ width ≤ 7
  | _ => True

/-- Where a run returns bytes, a run that differs in what the storage held returns the same. -/
def Encode.Independent (call : Encode) : Prop :=
  ∀ (xxh64 : List UInt8 → UInt64) (storage storage' : Memory) (buffer : Buffer),
    call.run ⟨xxh64, storage⟩ = .ok buffer → call.run ⟨xxh64, storage'⟩ = .ok buffer

/-- All bits of the buffer are set, by the constructor or the encoder: a literal is short, or in the
Huffman form behind a prefix of seven bits. -/
def Encode.Initialised : Encode → Prop
  | .literal string width =>
    Storage.Buffer.sso (Qpack.Literal.encodedSize string width) = true ∨ Qpack.Literal.Covers string width
  | _ => True

namespace Encode

/-- All but the literals. -/
theorem independent_of_congr {call : Encode}
    (h : ∀ (xxh64 : List UInt8 → UInt64) (storage storage' : Memory),
      call.run ⟨xxh64, storage⟩ = call.run ⟨xxh64, storage'⟩) : call.Independent := by
  intro xxh64 storage storage' buffer hrun
  rw [← h xxh64 storage storage']
  exact hrun

/-- A varint is written in full. -/
theorem independent_varint (value : UInt64) : (varint value).Independent := by
  apply independent_of_congr
  intro xxh64 storage storage'
  show Varint.encodeBuffer _ value = Varint.encodeBuffer _ value
  rcases Nat.lt_or_ge value.toNat (2 ^ 62) with hlt | hge
  · rw [Varint.encodeBuffer_eq hlt, Varint.encodeBuffer_eq hlt]
  · rw [Varint.encodeBuffer_overflow hge, Varint.encodeBuffer_overflow hge]

/-- A header is: the encoder sets the byte of each literal itself. -/
theorem independent_qpack (e : Qpack.Encoder) (header : Header) : (qpack e header).Independent := by
  apply independent_of_congr
  intro xxh64 storage storage'
  show (e.encodeBuffer _ header).1 = (e.encodeBuffer _ header).1
  cases hlow : headerIsLowercase header with
  | true => rw [Qpack.encodeBuffer_eq hlow, Qpack.encodeBuffer_eq hlow]
  | false => rw [Qpack.encodeBuffer_rejects hlow, Qpack.encodeBuffer_rejects hlow]

/-- A literal takes the first byte of a long buffer over as far as it does not cover it. -/
theorem independent_literal_iff {string : List UInt8} {width : UInt8} (h : width.toNat < 8) :
    (literal string width).Independent ↔ (literal string width).Initialised := by
  have hrun (host : Host) : (literal string width).run host = .ok
      ⟨Qpack.Literal.bytes ((host.buffer (Qpack.Literal.encodedSize string width)).get 0) string width⟩ :=
    congrArg Except.ok (Qpack.Literal.encodeBuffer_eq host string width)
  by_cases hshort : Storage.Buffer.sso (Qpack.Literal.encodedSize string width) = true
  · -- the pointer of a short buffer lies over its first byte
    refine iff_of_true (independent_of_congr fun xxh64 storage storage' => ?_) (.inl hshort)
    have hfirst (host : Host) : (host.buffer (Qpack.Literal.encodedSize string width)).get 0 = 0 :=
      if_pos ⟨hshort, by decide⟩
    rw [hrun, hrun, hfirst, hfirst]
  · have hfirst (host : Host) : (host.buffer (Qpack.Literal.encodedSize string width)).get 0 =
        host.storage.get 0 := if_neg fun hclear => hshort hclear.1
    have hcovers := Qpack.Literal.bytes_const_iff string h
    constructor
    · intro hindependent
      refine .inr (hcovers.mp fun first first' => ?_)
      have hsame := hindependent (fun _ => 0) (fun _ => first) (fun _ => first') _ (hrun _)
      rw [hrun, hfirst, hfirst] at hsame
      exact (congrArg Buffer.bytes (Except.ok.inj hsame)).symm
    · intro hinitialised
      refine independent_of_congr fun xxh64 storage storage' => ?_
      rw [hrun, hrun, hfirst, hfirst]
      exact congrArg (fun bs => Except.ok (Buffer.mk bs))
        (hcovers.mpr (hinitialised.resolve_left hshort) (storage.get 0) (storage'.get 0))

/-- **What depends on the storage**: a literal whose buffer lies in the heap, the flag of its plain form and
all that is above the flag. -/
theorem independent_iff (call : Encode) (h : call.InRange) : call.Independent ↔ call.Initialised := by
  cases call with
  | varint value => exact iff_of_true (independent_varint value) trivial
  | frame frame =>
    exact iff_of_true (independent_of_congr fun _ _ _ => Frame.encodeBuffer_congr frame _ _) trivial
  | prefixInt value width =>
    refine iff_of_true (independent_of_congr fun _ _ _ => congrArg Except.ok ?_) trivial
    rw [Qpack.PrefixInt.encodeBuffer_eq, Qpack.PrefixInt.encodeBuffer_eq]
  | huffman string =>
    refine iff_of_true (independent_of_congr fun _ _ _ => congrArg Except.ok ?_) trivial
    rw [Qpack.Huffman.encodeBuffer_eq, Qpack.Huffman.encodeBuffer_eq]
  | literal string width =>
    have hle : width.toNat ≤ 7 := UInt8.le_iff_toNat_le.mp h.2
    exact independent_literal_iff (Nat.lt_succ_of_le hle)
  | qpack e header => exact iff_of_true (independent_qpack e header) trivial

/-- A name of six bytes lies in a short buffer. -/
theorem independent_iff_short : (literal [0x63, 0x6f, 0x6f, 0x6b, 0x69, 0x65] 3).Independent :=
  (independent_iff (literal [0x63, 0x6f, 0x6f, 0x6b, 0x69, 0x65] 3) ⟨by decide, by decide⟩).mpr (.inl (by decide))

/-- 21 zero bytes are longer in the Huffman form, so a buffer in the heap takes them as they are and
the flag is not written. -/
theorem independent_not : (literal (List.replicate 21 0) 7).InRange ∧
    ¬ (literal (List.replicate 21 0) 7).Independent := by
  refine ⟨⟨by decide, by decide⟩, fun h => ?_⟩
  have hzero : (literal (List.replicate 21 0) 7).run ⟨fun _ => 0, fun _ => 0⟩ =
      .ok ⟨0x15 :: List.replicate 21 0⟩ := by decide
  have htop : (literal (List.replicate 21 0) 7).run ⟨fun _ => 0, fun _ => 0x80⟩ =
      .ok ⟨0x95 :: List.replicate 21 0⟩ := by decide
  have hsame := (h _ _ (fun _ => 0x80) _ hzero).symm.trans htop
  exact absurd (congrArg Buffer.bytes (Except.ok.inj hsame)) (by decide)

end Encode

end Bnl.Http3
