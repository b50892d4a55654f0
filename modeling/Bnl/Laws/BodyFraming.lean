import Bnl.Laws.FrameLength
import Bnl.Laws.Message

/-!
# DATA framing

`body::encoder` makes one frame of each buffer that it is given, in two calls: the frame and then the buffer.
What it has written and what it has queued come to DATA frames around the bytes that were added.

**The invariant** is `Wrote`, over what was written so far: DATA frames around these payloads, and in the state
`data` the next frame as far as its payload. `encode_cases` lists how a call may end, and the one that returns
something keeps `Good` and `Wrote`, moves bytes from the queue to what was written and adds none (`Writes`). So
whatever order the calls come in, payloads and queue together are the bytes that were added.

`Good` says when there is something queued. `fin` on an encoder that has written everything ends it at once, and
on another leaves the end to the last buffer; a buffer without bytes that is the last would be announced and
then not be there to hand out, and this is where that shows.

Whether the frames reach the peer is not said here. A run of a stream takes `Wrote` as its part of the
invariant.
-/

namespace Bnl.Http3

open Incremental Bnl.Base

namespace Frame

/-- A frame of which only the size is coded here is a preamble. -/
theorem preamble_wire {frame : Frame} {size : UInt64} (h : frame = .data size ∨ frame = .headers size)
    (hsize : size.toNat < 2 ^ 62) : Preamble frame.type size frame.wire := by
  have hwire : frame.wire = Varint.bytes frame.type.value ++ Varint.bytes size := by
    have hfield : frame.sizeField = size := by
      unfold sizeField
      rcases h with rfl | rfl
      · exact (congrArg UInt64.ofNat (Nat.zero_add _)).trans UInt64.ofNat_toNat
      · exact (congrArg UInt64.ofNat (Nat.zero_add _)).trans UInt64.ofNat_toNat
    have hcoded : frame.coded = [] := by rcases h with rfl | rfl <;> rfl
    rw [wire, hfield, hcoded, List.append_nil]
  exact ⟨_, _, hwire, (Varint.encodes_bytes (type_lt _)).parser, (Varint.encodes_bytes hsize).parser⟩

/-- DATA frames, one behind the other. -/
theorem DataFrames.append {ps qs : List (List UInt8)} {v w : List UInt8} (hp : DataFrames ps v)
    (hq : DataFrames qs w) : DataFrames (ps ++ qs) (v ++ w) := by
  induction hp with
  | nil => exact hq
  | cons hpre hlength _ ih =>
    rw [List.append_assoc, List.append_assoc, List.cons_append]
    exact .cons hpre hlength ih

/-- Any bytes are the payloads of some DATA frames, of one byte each if need be. -/
theorem exists_dataFrames (b : List UInt8) : ∃ ps w, DataFrames ps w ∧ ps.flatten = b := by
  induction b with
  | nil => exact ⟨[], [], .nil, rfl⟩
  | cons byte b ih =>
    obtain ⟨ps, w, hw, hflat⟩ := ih
    have hpre : Preamble .data 1 (Frame.data 1).wire := preamble_wire (.inl rfl) (by decide)
    exact ⟨[byte] :: ps, _, .cons hpre rfl hw, by rw [List.flatten_cons, hflat]; rfl⟩

end Frame

namespace Body.Encoder

variable {host : Host} {e : Encoder}

/-- What an encoder is like between two calls: something is queued wherever a frame was announced or an end is
still to come, and nothing where it has ended. -/
structure Good (e : Encoder) : Prop where
  fits : ∀ b ∈ e.buffers.buffers, b.size < 2 ^ 64
  frame : e.state = .frame → e.fin_ = true → e.buffers.bytes ≠ []
  data : e.state = .data → e.buffers.bytes ≠ [] ∧ e.buffers.front.size < 2 ^ 62
  fin : e.state = .fin → e.fin_ = true ∧ e.buffers.bytes = []

/-- These DATA frames were written, and in the state `data` the next one as far as its payload. -/
def Wrote (e : Encoder) (sent : List (List UInt8)) (out : List UInt8) : Prop :=
  match e.state with
  | .data => ∃ frames, Frame.DataFrames sent frames ∧
      out = frames ++ (Frame.data (UInt64.ofNat e.buffers.front.size)).wire
  | _ => Frame.DataFrames sent out

/-- How many events are at most to come. -/
def owed (e : Encoder) : Nat :=
  match e.state with
  | .frame => 2 * e.buffers.buffers.length
  | .data => 2 * e.buffers.buffers.length - 1
  | .fin => 0

theorem good_new : Good {} := ⟨nofun, nofun, nofun, nofun⟩

/-- A queue with bytes has a first buffer. -/
theorem exists_front {s : Buffers} (h : s.bytes ≠ []) : ∃ front left, s = ⟨front :: left⟩ := by
  obtain ⟨buffers⟩ := s
  cases buffers with
  | nil => exact absurd rfl h
  | cons front left => exact ⟨front, left, rfl⟩

/-! ## Adding and ending -/

/-- `add` queues the buffer, or is refused behind `fin`. -/
theorem add_cases (e : Encoder) (b : Buffer) :
    e.fin_ = true ∧ e.add b = (.error .internal, e) ∨
    e.fin_ = false ∧ e.add b = (.ok (), { e with buffers := e.buffers.push b }) := by
  unfold add
  cases hfin : e.fin_ with
  | true => exact .inl ⟨rfl, if_pos rfl⟩
  | false => exact .inr ⟨rfl, if_neg Bool.false_ne_true⟩

/-- A buffer that is added leaves it so. -/
theorem Good.push (h : e.Good) (hfin : e.fin_ = false) {b : Buffer} (hb : b.size < 2 ^ 64) :
    Good { e with buffers := e.buffers.push b } where
  fits c hc := by
    rcases List.mem_append.mp hc with hc | hc
    · exact h.fits c hc
    · exact List.mem_singleton.mp hc ▸ hb
  frame _ hfin' := nomatch hfin.symm.trans hfin'
  data hs := by
    obtain ⟨hne, hsize⟩ := h.data hs
    obtain ⟨front, left, hcons⟩ := exists_front hne
    dsimp only
    rw [Buffers.push_bytes]
    refine ⟨List.append_ne_nil_of_left_ne_nil hne _, ?_⟩
    rw [hcons] at hsize ⊢
    exact hsize
  fin hs := nomatch hfin.symm.trans (h.fin hs).1

/-- It changes nothing of what was written: the frame that may be open is that of the first buffer. -/
theorem Wrote.push (h : e.Good) {sent : List (List UInt8)} {out : List UInt8} (hw : e.Wrote sent out)
    (b : Buffer) : Wrote { e with buffers := e.buffers.push b } sent out := by
  unfold Wrote at hw ⊢
  cases hs : e.state with
  | frame =>
    rw [hs] at hw
    exact hw
  | fin =>
    rw [hs] at hw
    exact hw
  | data =>
    rw [hs] at hw
    obtain ⟨front, left, hcons⟩ := exists_front (h.data hs).1
    dsimp only at hw ⊢
    rw [hcons] at hw ⊢
    exact hw

/-- `fin` ends an encoder that has nothing queued, and leaves the end to the last buffer of another. -/
theorem fin_cases (e : Encoder) : e.state = .fin ∧ e.fin = (.error .internal, e) ∨
    e.state ≠ .fin ∧ e.fin = (.ok (),
      { e with fin_ := true, state := if e.buffers.empty then .fin else e.state }) := by
  unfold fin
  by_cases hs : e.state = .fin
  · exact .inl ⟨hs, if_pos hs⟩
  · rw [if_neg hs]
    refine .inr ⟨hs, ?_⟩
    dsimp only
    by_cases hempty : e.buffers.empty = true
    · rw [if_pos hempty, if_pos hempty]
    · rw [if_neg hempty, if_neg hempty]

theorem Good.ended (h : e.Good) (hs : e.state ≠ .fin) :
    Good { e with fin_ := true, state := if e.buffers.empty then .fin else e.state } := by
  by_cases hempty : e.buffers.empty = true
  · rw [if_pos hempty]
    exact ⟨h.fits, nofun, nofun, fun _ => ⟨rfl, Buffers.empty_iff.mp hempty⟩⟩
  · rw [if_neg hempty]
    have hne : e.buffers.bytes ≠ [] := fun hnil => hempty (Buffers.empty_iff.mpr hnil)
    exact ⟨h.fits, fun _ _ => hne, h.data, fun hfin => absurd hfin hs⟩

theorem Wrote.ended (h : e.Good) {sent : List (List UInt8)} {out : List UInt8} (hw : e.Wrote sent out) :
    Wrote { e with fin_ := true, state := if e.buffers.empty then .fin else e.state } sent out := by
  by_cases hempty : e.buffers.empty = true
  · rw [if_pos hempty]
    unfold Wrote at hw
    split at hw
    · next hs => exact absurd (Buffers.empty_iff.mp hempty) (h.data hs).1
    · exact hw
  · rw [if_neg hempty]
    exact hw

/-! ## Encoding -/

/-- The call that returns a frame. -/
theorem encode_frame (host : Host) (h : e.Good) (hs : e.state = .frame) (hne : e.buffers.bytes ≠ []) :
    e.encode host = if e.buffers.front.size < 2 ^ 62 then
        (.ok ⟨(Frame.data (UInt64.ofNat e.buffers.front.size)).wire⟩, { e with state := .data })
      else (.error .varintOverflow, e) := by
  obtain ⟨front, left, hcons⟩ := exists_front hne
  have hsize : (UInt64.ofNat e.buffers.front.size).toNat = e.buffers.front.size := by
    refine UInt64.toNat_ofNat_of_lt' (h.fits _ ?_)
    rw [hcons]
    exact List.mem_cons_self
  unfold encode
  rw [hs]
  dsimp only
  rw [if_neg fun hempty => hne (Buffers.empty_iff.mp hempty), Frame.encodeBuffer_size host (.inl rfl), hsize]
  by_cases hlt : e.buffers.front.size < 2 ^ 62
  · rw [if_pos hlt, if_pos hlt]
  · rw [if_neg hlt, if_neg hlt]

/-- The call that returns a payload. -/
theorem encode_data (host : Host) (hs : e.state = .data) {front : Buffer} {left : List Buffer}
    (hb : e.buffers = ⟨front :: left⟩) : e.encode host = (.ok front, { e with
      buffers := ⟨left⟩, state := if e.fin_ && (⟨left⟩ : Buffers).empty then .fin else .frame }) := by
  unfold encode
  rw [hs]
  dsimp only
  rw [hb]
  rfl

/-- A call that returns something writes on: the bytes that were added stay the same, and less is owed. -/
structure Writes (e e' : Encoder) (sent : List (List UInt8)) (out : List UInt8) (b : Buffer) : Prop where
  good : e'.Good
  wrote : ∃ sent', e'.Wrote sent' (out ++ b.bytes) ∧
    sent'.flatten ++ e'.buffers.bytes = sent.flatten ++ e.buffers.bytes
  owed : e'.owed < e.owed
  ended : e'.fin_ = e.fin_

/-- The ways a call can end. -/
theorem encode_cases (host : Host) (h : e.Good) {sent : List (List UInt8)} {out : List UInt8}
    (hw : e.Wrote sent out) :
    e.state = .frame ∧ e.buffers.bytes = [] ∧ e.encode host = (.error .idle, e) ∨
    e.state = .frame ∧ 2 ^ 62 ≤ e.buffers.front.size ∧ e.encode host = (.error .varintOverflow, e) ∨
    e.state = .fin ∧ e.encode host = (.error .internal, e) ∨
    (e.state = .frame → e.buffers.front.size < 2 ^ 62) ∧ e.state ≠ .fin ∧
      ∃ b e', e.encode host = (.ok b, e') ∧ Writes e e' sent out b := by
  cases hs : e.state with
  | fin =>
    refine .inr (.inr (.inl ⟨rfl, ?_⟩))
    unfold encode
    rw [hs]
  | frame =>
    by_cases hempty : e.buffers.bytes = []
    · refine .inl ⟨rfl, hempty, ?_⟩
      unfold encode
      rw [hs]
      exact if_pos (Buffers.empty_iff.mpr hempty)
    · rw [encode_frame host h hs hempty]
      by_cases hlt : e.buffers.front.size < 2 ^ 62
      · rw [if_pos hlt]
        refine .inr (.inr (.inr ⟨fun _ => hlt, nofun, _, _, rfl, ?_⟩))
        unfold Wrote at hw
        rw [hs] at hw
        obtain ⟨front, left, hcons⟩ := exists_front hempty
        refine ⟨⟨h.fits, nofun, fun _ => ⟨hempty, hlt⟩, nofun⟩, ⟨sent, ⟨out, hw, rfl⟩, rfl⟩, ?_, rfl⟩
        unfold owed
        rw [hs, hcons]
        dsimp only
        rw [List.length_cons]
        omega
      · rw [if_neg hlt]
        exact .inr (.inl ⟨rfl, Nat.not_lt.mp hlt, rfl⟩)
  | data =>
    obtain ⟨hne, hlt⟩ := h.data hs
    obtain ⟨front, left, hcons⟩ := exists_front hne
    refine .inr (.inr (.inr ⟨nofun, nofun, _, _, encode_data host hs hcons, ?_⟩))
    unfold Wrote at hw
    rw [hs] at hw
    obtain ⟨frames, hframes, rfl⟩ := hw
    rw [hcons] at hlt
    have hsize : (UInt64.ofNat front.size).toNat = front.size :=
      UInt64.toNat_ofNat_of_lt' (Nat.lt_trans hlt (by decide))
    have hlast : Frame.DataFrames (sent ++ [front.bytes])
        (frames ++ (Frame.data (UInt64.ofNat front.size)).wire ++ front.bytes) := by
      have hone := Frame.DataFrames.cons 
        (Frame.preamble_wire (.inl rfl) (by rw [hsize]; exact hlt)) hsize.symm .nil
      rw [List.append_nil] at hone
      rw [List.append_assoc]
      exact hframes.append hone
    refine ⟨⟨fun b hb => h.fits b ?_, ?_, ?_, ?_⟩, ⟨sent ++ [front.bytes], ?_, ?_⟩, ?_, rfl⟩
    · rw [hcons]
      exact List.mem_cons_of_mem front hb
    · dsimp only
      intro hframe hfin hnil
      rw [hfin, Buffers.empty_iff.mpr hnil] at hframe
      cases hframe
    · dsimp only
      split <;> exact nofun
    · dsimp only
      split
      · next hend =>
        rw [Bool.and_eq_true] at hend
        exact fun _ => ⟨hend.1, Buffers.empty_iff.mp hend.2⟩
      · exact nofun
    · unfold Wrote
      dsimp only
      rw [hcons]
      split
      · next hdata =>
        split at hdata <;> cases hdata
      · exact hlast
    · rw [List.flatten_concat, hcons, List.append_assoc]
      rfl
    · unfold owed
      rw [hs, hcons]
      dsimp only
      rw [List.length_cons]
      split
      · next h => omega
      · next h => split at h <;> cases h
      · omega

/-- What was written goes on to DATA frames around all that was added. -/
theorem Wrote.extends (h : e.Good) {sent : List (List UInt8)} {out : List UInt8} (hw : e.Wrote sent out) :
    ∃ payloads more, Frame.DataFrames payloads (out ++ more) ∧
      payloads.flatten = sent.flatten ++ e.buffers.bytes := by
  unfold Wrote at hw
  split at hw
  · next hs =>
    obtain ⟨hne, hlt⟩ := h.data hs
    obtain ⟨front, left, hcons⟩ := exists_front hne
    obtain ⟨frames, hframes, rfl⟩ := hw
    obtain ⟨ps, w, hrest, hflat⟩ := Frame.exists_dataFrames (⟨left⟩ : Buffers).bytes
    rw [hcons] at hlt ⊢
    have hsize : (UInt64.ofNat front.size).toNat = front.size :=
      UInt64.toNat_ofNat_of_lt' (Nat.lt_trans hlt (by decide))
    have hnext := Frame.DataFrames.cons 
      (Frame.preamble_wire (.inl rfl) (by rw [hsize]; exact hlt)) hsize.symm hrest
    refine ⟨sent ++ front.bytes :: ps, front.bytes ++ w, ?_, ?_⟩
    · rw [List.append_assoc]
      exact hframes.append hnext
    · rw [List.flatten_append, List.flatten_cons, hflat]
      rfl
  · obtain ⟨ps, w, hrest, hflat⟩ := Frame.exists_dataFrames e.buffers.bytes
    exact ⟨sent ++ ps, w, hw.append hrest, by rw [List.flatten_append, hflat]⟩

end Body.Encoder

end Bnl.Http3
