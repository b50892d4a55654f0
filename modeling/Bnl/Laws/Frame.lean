import Bnl.Codec.Frame
import Bnl.Laws.PrefixInt
import Bnl.Laws.Varint

/-!
# Laws of `frame`

The decoder of one frame is a parser, `single`, that answers nothing for a frame of unknown type. `decode` runs
it until it answers a frame, and leaves the unknown frames consumed whether or not there is one. `peek` is
another loop, over varints and not over frames.

**The laws** are `decode_bytes` and `peek_eq`: on any sequence, however it is cut, the decoder answers what
`decodeBytes` answers on its bytes and leaves the bytes that leaves, and `peek` what `peekParser` does. From
there on frames are spoken of on byte lists. `decodeBytes_append_ok`, `decodeBytes_append_short` and
`decodeBytes_append_error` say what becomes of an answer when more bytes come.

A payload is a parser that also answers with what length it is to be compared, since a PUSH_PROMISE frame is
compared with less than it announced. The error `delegate` of the source, which says that an unknown frame was
skipped, becomes the answer `none` (`skipped`): then the source's loop is a loop over answers, and the parser's
rules apply to it. That nothing else fails with `delegate` is `Patient`, which the parsers of all payloads are.

Whether `peek` and `decode` see the same frame is not a law here; they need not.
-/

namespace Bnl.Http3

open Incremental Bnl.Base

/-! ## Varints in parsers of frames -/

namespace Varint

/-- The only error of a varint is `incomplete`. -/
theorem parser_patient : Patient .incomplete parser :=
  (Patient.item _).bind fun _ => (Patient.take _ _).bind fun _ => FailsWith.pure _

/-- A varint that was read is gone. -/
theorem parser_lt {b rest : List UInt8} {v : UInt64} (h : parser b = .ok (v, rest)) :
    rest.length < b.length := by
  cases b with
  | nil => cases h
  | cons first tl =>
    have hle := ((Stable.take _).map _).length_le
      (show (Parser.take Error.incomplete (2 ^ (first.toNat / 64) - 1) >>= fun bs =>
        pure _ : Parser Error UInt8 UInt64) tl = .ok (v, rest) from h)
    exact Nat.lt_succ_of_le hle

/-- On a lookahead the decoder reads what the parser does. -/
theorem decode_follows {β : Type} [Storage β] (l : Lookahead β) :
    Lookahead.Follows parser l (decode l) :=
  Eq.mpr (congrArg (Lookahead.Follows _ l) (decode_eq l)) Lookahead.follows_read

end Varint

namespace Frame

/-! ## Parsers -/

/-- One setting. -/
def setting : Parser Error UInt8 (UInt64 × UInt64) := do
  let id ← Varint.parser
  let value ← Varint.parser
  pure (id, value)

/-- A round over the settings: the size read so far, and the settings. -/
def settingsRound (size : UInt64) (s : Nat × Settings) :
    Parser Error UInt8 (Nat × Settings ⊕ Settings) :=
  if s.1 < size.toNat then do
    let r ← Parser.measure setting
    pure (.inl (s.1 + r.2, updateSettings s.2 r.1.1 r.1.2))
  else pure (.inr s.2)

/-- What PUSH_PROMISE answers, from the identifier and how much of the payload it took. -/
def promise (size : UInt64) (r : UInt64 × Nat) : Frame × UInt64 :=
  if size < UInt64.ofNat r.2 then (.pushPromise r.1 0, size)
  else (.pushPromise r.1 (size - UInt64.ofNat r.2), UInt64.ofNat r.2)

/-- The payload of a frame, and the size it is to have had. -/
def payload (type : FrameType) (size : UInt64) : Parser Error UInt8 (Frame × UInt64) :=
  match type with
  | .data => pure (.data size, 0)
  | .headers => pure (.headers size, 0)
  | .priority => do
    let byte ← Parser.item .incomplete
    let prioritizedElementId ← Varint.parser
    let elementDependencyId ← Varint.parser
    let weight ← Parser.item .incomplete
    pure (.priority {
      prioritizedElementType := .ofValue (byte >>> 6)
      elementDependencyType := .ofValue (byte >>> 4 &&& 0x03)
      prioritizedElementId, elementDependencyId, weight }, size)
  | .cancelPush => Varint.parser >>= fun pushId => pure (.cancelPush pushId, size)
  | .settings =>
    Parser.loop .incomplete (settingsRound size) (0, {}) >>= fun s => pure (.settings s, size)
  | .pushPromise => Parser.measure Varint.parser >>= fun r => pure (promise size r)
  | .goaway => Varint.parser >>= fun streamId => pure (.goaway streamId, size)
  | .maxPushId => Varint.parser >>= fun pushId => pure (.maxPushId pushId, size)
  | .duplicatePush => Varint.parser >>= fun pushId => pure (.duplicatePush pushId, size)

/-- A payload that took as much as it is to have had. -/
def checkSize (r : (Frame × UInt64) × Nat) : Parser Error UInt8 (Option Frame) :=
  if r.2 ≠ r.1.2.toNat then Parser.fail .malformedFrame else pure (some r.1.1)

/-- What follows the type and the size. -/
def body (type size : UInt64) : Parser Error UInt8 (Option Frame) :=
  match FrameType.ofValue type with
  | none => Parser.take .incomplete size.toNat >>= fun _ => pure none
  | some type => Parser.measure (payload type size) >>= checkSize

/-- One frame; nothing for a frame of unknown type. -/
def single : Parser Error UInt8 (Option Frame) := do
  let type ← Varint.parser
  let size ← Varint.parser
  body type size

/-! ### They are stable -/

/-- More input changes no answer but `incomplete`. -/
theorem setting_stable : Stable .incomplete setting :=
  Varint.parser_stable.bind fun _ => Varint.parser_stable.map _

/-- The only error of a setting is `incomplete`. -/
theorem setting_patient : Patient .incomplete setting :=
  Varint.parser_patient.bind fun _ => Varint.parser_patient.bind fun _ => FailsWith.pure _

/-- A setting that was read is gone. -/
theorem setting_lt {b rest : List UInt8} {r : UInt64 × UInt64} (h : setting b = .ok (r, rest)) :
    rest.length < b.length := by
  obtain ⟨id, mid, hid, h⟩ := Parser.bind_eq_ok.mp h
  obtain ⟨value, mid', hvalue, h⟩ := Parser.bind_eq_ok.mp h
  cases h
  exact Nat.lt_trans (Varint.parser_lt hvalue) (Varint.parser_lt hid)

/-- A round that goes on has read something. -/
theorem settingsRound_advances (size : UInt64) : Parser.Advances (settingsRound size) := by
  intro s b s' rest h
  rw [settingsRound] at h
  split at h
  · obtain ⟨r, mid, hm, h⟩ := Parser.bind_eq_ok.mp h
    cases h
    cases hb : setting b with
    | error e =>
      rw [Parser.measure_error hb] at hm
      cases hm
    | ok q =>
      rw [Parser.measure_ok hb] at hm
      cases hm
      exact setting_lt hb
  · cases h

/-- More input changes no round but one that is short. -/
theorem settingsRound_stable (size : UInt64) (s : Nat × Settings) :
    Stable .incomplete (settingsRound size s) :=
  Stable.ite (setting_stable.measure.map _) (Stable.pure _)

/-- More input changes no payload but one that is short. -/
theorem payload_stable (type : FrameType) (size : UInt64) :
    Stable .incomplete (payload type size) := by
  cases type with
  | data => exact Stable.pure _
  | headers => exact Stable.pure _
  | priority =>
    exact Stable.item.bind fun _ => Varint.parser_stable.bind fun _ =>
      Varint.parser_stable.bind fun _ => Stable.item.map _
  | settings =>
    exact (Stable.loop (settingsRound_advances size) (settingsRound_stable size) _).map _
  | pushPromise => exact Varint.parser_stable.measure.map _
  | cancelPush => exact Varint.parser_stable.map _
  | goaway => exact Varint.parser_stable.map _
  | maxPushId => exact Varint.parser_stable.map _
  | duplicatePush => exact Varint.parser_stable.map _

/-- A payload fails with `incomplete` only; whether it is malformed is for the size check to say. -/
theorem payload_patient (type : FrameType) (size : UInt64) :
    Patient .incomplete (payload type size) := by
  have hvarint {α : Type} (f : UInt64 → α) :
      Patient Error.incomplete (Varint.parser >>= fun v => pure (f v)) :=
    Varint.parser_patient.bind fun _ => FailsWith.pure _
  cases type with
  | data => exact FailsWith.pure _
  | headers => exact FailsWith.pure _
  | priority =>
    exact (Patient.item _).bind fun _ => Varint.parser_patient.bind fun _ =>
      Varint.parser_patient.bind fun _ => (Patient.item _).bind fun _ => FailsWith.pure _
  | settings =>
    refine FailsWith.bind (FailsWith.loop (settingsRound_advances size) (fun s => ?_) _) fun _ =>
      FailsWith.pure _
    exact (setting_patient.measure.bind fun _ => FailsWith.pure _).ite (FailsWith.pure _)
  | pushPromise => exact Varint.parser_patient.measure.bind fun _ => FailsWith.pure _
  | cancelPush => exact hvarint _
  | goaway => exact hvarint _
  | maxPushId => exact hvarint _
  | duplicatePush => exact hvarint _

/-- The size check reads nothing. -/
theorem checkSize_stable (r : (Frame × UInt64) × Nat) : Stable .incomplete (checkSize r) :=
  Stable.ite (Stable.fail _) (Stable.pure _)

/-- More input changes nothing behind the type and the size. -/
theorem body_stable (type size : UInt64) : Stable .incomplete (body type size) := by
  unfold body
  cases FrameType.ofValue type with
  | none => exact (Stable.take _).map _
  | some type => exact (payload_stable type size).measure.bind checkSize_stable

/-- More input changes no frame but one that is short. -/
theorem single_stable : Stable .incomplete single :=
  Varint.parser_stable.bind fun type => Varint.parser_stable.bind fun size => body_stable type size

/-- A frame takes a byte at least, of unknown type as well. -/
theorem single_lt {b rest : List UInt8} {f : Option Frame} (h : single b = .ok (f, rest)) :
    rest.length < b.length := by
  obtain ⟨type, mid, htype, h⟩ := Parser.bind_eq_ok.mp h
  exact Nat.lt_of_le_of_lt
    ((Varint.parser_stable.bind fun size => body_stable type size).length_le h)
    (Varint.parser_lt htype)

/-! ## Decoding one frame -/

section Single

variable {β : Type} [Storage β]

/-- The loop over the settings reads what the parser's loop does. The induction is on the fuel, of which there
is more than bytes. -/
theorem decodeSettings_follows {size : UInt64} {fuel : Nat} {l : Lookahead β} (n : Nat)
    (s : Settings) (hfuel : l.bytes.length < fuel) :
    Lookahead.Follows (Parser.loop .incomplete (settingsRound size) (n, s)) l
      (decodeSettings size fuel n s l) := by
  induction fuel generalizing l n s with
  | zero => exact absurd hfuel (Nat.not_lt_zero _)
  | succ fuel ih =>
    by_cases hn : n < size.toNat
    · have hread : Lookahead.Follows setting l ((do
          let id ← Varint.decode
          let value ← Varint.decode
          pure (id, value) : Reader Error (Lookahead β) _) l) :=
        (Varint.decode_follows l).bind Varint.parser_stable
          (fun _ => Varint.parser_stable.map _) fun _ l₁ _ =>
            (Varint.decode_follows l₁).bind Varint.parser_stable (fun _ => Stable.pure _)
              fun _ _ _ => Lookahead.follows_pure _
      have hloop (b : List UInt8) : Parser.loop .incomplete (settingsRound size) (n, s) b =
          (Parser.measure setting >>= fun r => Parser.loop .incomplete (settingsRound size)
            (n + r.2, updateSettings s r.1.1 r.1.2)) b := by
        rw [Parser.loop_unfold (settingsRound_advances size), settingsRound, if_pos hn,
          Parser.bind_apply, Parser.bind_apply]
        rcases Parser.measure setting b with e | ⟨r, rest⟩ <;> rfl
      have haround := hread.around setting_stable
        (f := fun r => Parser.loop .incomplete (settingsRound size)
          (n + r.2, updateSettings s r.1.1 r.1.2))
        (fun r => Stable.loop (settingsRound_advances size) (settingsRound_stable size) _)
        (k := fun r k => decodeSettings size fuel (n + k) (updateSettings s r.1 r.2))
        fun r k l' hr => ih (n + k) (updateSettings s r.1 r.2) ?_
      · rw [decodeSettings, if_pos hn, Lookahead.Follows, hloop]
        simp only [bind_assoc, pure_bind] at haround
        exact haround
      · have hlt := hread.length_lt (fun _ _ => setting_lt) hr
        omega
    · have hdone : settingsRound size (n, s) l.bytes = .ok (.inr s, l.bytes) := by
        rw [settingsRound, if_neg hn]
        rfl
      rw [decodeSettings, if_neg hn]
      refine Lookahead.follows_ok (Parser.loop_done (settingsRound_advances size) hdone) ?_
      rw [Nat.sub_self, Lookahead.consume_zero]
      rfl

/-- The switch over the types reads what `payload` does. -/
theorem decodePayload_follows (l : Lookahead β) (type : FrameType) (size : UInt64) :
    Lookahead.Follows (payload type size) l (decodePayload type size l) := by
  have hvarint (k : UInt64 → Frame × UInt64) :
      Lookahead.Follows (Varint.parser >>= fun v => pure (k v)) l
        ((Varint.decode >>= fun v => pure (k v) : Reader Error (Lookahead β) _) l) :=
    (Varint.decode_follows l).bind Varint.parser_stable (fun _ => Stable.pure _)
      fun _ _ _ => Lookahead.follows_pure _
  cases type with
  | data => exact Lookahead.follows_pure _
  | headers => exact Lookahead.follows_pure _
  | priority =>
    refine (Qpack.PrefixInt.uint8Decode_follows l).bind Stable.item
      (fun _ => Varint.parser_stable.bind fun _ => Varint.parser_stable.bind fun _ =>
        Stable.item.map _) fun byte l₁ _ => ?_
    refine (Varint.decode_follows l₁).bind Varint.parser_stable
      (fun _ => Varint.parser_stable.bind fun _ => Stable.item.map _) fun _ l₂ _ => ?_
    refine (Varint.decode_follows l₂).bind Varint.parser_stable
      (fun _ => Stable.item.map _) fun _ l₃ _ => ?_
    exact (Qpack.PrefixInt.uint8Decode_follows l₃).bind Stable.item (fun _ => Stable.pure _)
      fun _ _ _ => Lookahead.follows_pure _
  | settings =>
    have hfuel : l.bytes.length < l.size + 1 := Nat.lt_succ_of_le (Nat.le_of_eq l.size_eq.symm)
    exact (decodeSettings_follows 0 {} hfuel).bind
      (Stable.loop (settingsRound_advances size) (settingsRound_stable size) _)
      (fun _ => Stable.pure _) fun _ _ _ => Lookahead.follows_pure _
  | pushPromise =>
    have haround := (Varint.decode_follows l).around Varint.parser_stable
      (f := fun r => pure (promise size r)) (fun _ => Stable.pure _)
      (k := fun pushId n => pure (promise size (pushId, n)))
      fun pushId n l' _ => Lookahead.follows_pure _
    have hdecode : (decodePayload .pushPromise size : Reader Error (Lookahead β) _) = (do
        let before ← get
        let pushId ← Varint.decode
        let after ← get
        pure (promise size (pushId, after.consumed - before.consumed))) := by
      have hpure (before after : Lookahead β) (pushId : UInt64) :
          (pure (promise size (pushId, after.consumed - before.consumed)) :
            Reader Error (Lookahead β) _) =
          if size < UInt64.ofNat (after.consumed - before.consumed) then
            pure (.pushPromise pushId 0, size)
          else pure (.pushPromise pushId (size - UInt64.ofNat (after.consumed - before.consumed)),
            UInt64.ofNat (after.consumed - before.consumed)) := by
        rw [promise]
        split <;> rfl
      simp only [hpure]
      rfl
    exact Eq.mpr (congrArg (fun x => Lookahead.Follows _ l (x l)) hdecode) haround
  | cancelPush => exact hvarint _
  | goaway => exact hvarint _
  | maxPushId => exact hvarint _
  | duplicatePush => exact hvarint _

/-- `decode_single`, with a frame of unknown type as an answer and not as the error `delegate`. -/
def skipped (r : Except Error Frame × Lookahead β) : Except Error (Option Frame) × Lookahead β :=
  match r with
  | (.ok frame, l) => (.ok (some frame), l)
  | (.error error, l) => if error = .delegate then (.ok none, l) else (.error error, l)

/-- Behind a decoder that does not fail with `delegate`, what is skipped is skipped there. -/
theorem skipped_bind {α : Type} {p : Parser Error UInt8 α} {x : Reader Error (Lookahead β) α}
    {k : α → Reader Error (Lookahead β) Frame} {l : Lookahead β} (hp : Patient .incomplete p)
    (hx : Lookahead.Follows p l (x l)) :
    skipped ((x >>= k) l) = ((x >>= fun a l => skipped (k a l)) l : _ × Lookahead β) := by
  cases hb : p l.bytes with
  | error e =>
    obtain ⟨l', hxl⟩ := hx.stops hb
    rw [Reader.bind_error hxl, Reader.bind_error hxl, hp _ _ hb]
    rfl
  | ok q =>
    have hxl := hx.of_ok hb
    rw [Reader.bind_ok hxl, Reader.bind_ok hxl]

/-- What `decode_single` does behind the type and the size. -/
def decodeBody (type size : UInt64) : Reader Error (Lookahead β) Frame := do
  let before ← get
  match FrameType.ofValue type with
  | none =>
    if before.size < size.toNat then throw .incomplete
    else do
      set (before.consume size.toNat)
      throw .delegate
  | some type =>
    let (frame, size) ← decodePayload type size
    let after ← get
    if after.consumed - before.consumed ≠ size.toNat then throw .malformedFrame
    else pure frame

/-- Behind the type and the size the decoder does what `body` does. -/
theorem decodeBody_follows (l : Lookahead β) (type size : UInt64) :
    Lookahead.Follows (body type size) l (skipped (decodeBody type size l)) := by
  unfold body decodeBody
  cases FrameType.ofValue type with
  | none =>
    show Lookahead.Follows _ l (skipped ((if l.size < size.toNat then throw .incomplete else do
      set (l.consume size.toNat)
      throw .delegate : Reader Error (Lookahead β) Frame) l))
    rw [Lookahead.size_eq]
    by_cases hshort : l.bytes.length < size.toNat
    · rw [if_pos hshort]
      exact Lookahead.follows_error (Parser.bind_error (Parser.take_of_gt hshort)) rfl
    · have hle := Nat.not_lt.mp hshort
      rw [if_neg hshort]
      refine Lookahead.follows_ok (Parser.bind_ok (Parser.take_of_le hle)) ?_
      rw [List.length_drop, Nat.sub_sub_self hle]
      rfl
  | some type =>
    have haround := (decodePayload_follows l type size).around (payload_stable type size)
      checkSize_stable
      (k := fun r n l => skipped ((if n ≠ r.2.toNat then throw .malformedFrame
        else pure r.1 : Reader Error (Lookahead β) Frame) l))
      fun r n l' _ => by
        unfold checkSize
        dsimp only
        split
        · exact Lookahead.follows_fail _ _
        · exact Lookahead.follows_pure _
    have hskip := skipped_bind (payload_patient type size) (decodePayload_follows l type size)
      (k := fun r => do
        let after ← get
        if after.consumed - l.consumed ≠ r.2.toNat then throw .malformedFrame
        else pure r.1)
    exact Eq.mpr (congrArg (Lookahead.Follows _ l) hskip) haround

/-- **`decode_single` is the parser of one frame**, with the frames it skips as answers. -/
theorem decodeSingle_follows (l : Lookahead β) :
    Lookahead.Follows single l (skipped (decodeSingle l)) := by
  have hsingle : (decodeSingle : Reader Error (Lookahead β) Frame) =
      (Varint.decode >>= fun type => Varint.decode >>= fun size => decodeBody type size) := rfl
  rw [hsingle, skipped_bind Varint.parser_patient (Varint.decode_follows l)]
  refine (Varint.decode_follows l).bind Varint.parser_stable
    (fun type => Varint.parser_stable.bind fun size => body_stable type size) fun type l₁ _ => ?_
  rw [skipped_bind Varint.parser_patient (Varint.decode_follows l₁)]
  exact (Varint.decode_follows l₁).bind Varint.parser_stable
    (fun size => body_stable type size) fun size l₂ _ => decodeBody_follows l₂ type size

omit [Storage β] in
/-- What an answer of `decode_single` was before `skipped`. -/
theorem of_skipped_some {r : Except Error Frame × Lookahead β} {frame : Frame} {l : Lookahead β}
    (h : skipped r = (.ok (some frame), l)) : r = (.ok frame, l) := by
  unfold skipped at h
  split at h
  · cases h
    rfl
  · split at h <;> cases h

omit [Storage β] in
/-- An answer of nothing was the error `delegate`. -/
theorem of_skipped_none {r : Except Error Frame × Lookahead β} {l : Lookahead β}
    (h : skipped r = (.ok none, l)) : r = (.error .delegate, l) := by
  unfold skipped at h
  split at h
  · cases h
  · split at h
    · next hd =>
      cases h
      rw [hd]
    · cases h

omit [Storage β] in
theorem of_skipped_error {r : Except Error Frame × Lookahead β} {e : Error}
    (h : (skipped r).1 = .error e) : r.1 = .error e ∧ e ≠ .delegate := by
  unfold skipped at h
  split at h
  · cases h
  · split at h
    · cases h
    · next hne =>
      cases h
      exact ⟨rfl, hne⟩

end Single

/-! ## Decoding -/

/-- `decode` on a byte list: a frame, behind any number of unknown ones. -/
def decodeBytes (b : List UInt8) : Except Error Frame × List UInt8 :=
  match _h : single b with
  | .ok (some frame, rest) => (.ok frame, rest)
  | .ok (none, rest) => decodeBytes rest
  | .error e => (.error e, b)
termination_by b.length
decreasing_by exact single_lt _h

/-- A known frame is the answer. -/
theorem decodeBytes_some {b rest : List UInt8} {frame : Frame}
    (h : single b = .ok (some frame, rest)) : decodeBytes b = (.ok frame, rest) := by
  rw [decodeBytes]
  split <;> next heq => rw [h] at heq; cases heq <;> rfl

/-- An unknown frame is skipped. -/
theorem decodeBytes_none {b rest : List UInt8} (h : single b = .ok (none, rest)) :
    decodeBytes b = decodeBytes rest := by
  rw [decodeBytes]
  split <;> next heq => rw [h] at heq; cases heq <;> rfl

/-- An error leaves what is behind the frames that were skipped. -/
theorem decodeBytes_error {b : List UInt8} {e : Error} (h : single b = .error e) :
    decodeBytes b = (.error e, b) := by
  rw [decodeBytes]
  split <;> next heq => rw [h] at heq; cases heq <;> rfl

theorem decodeBytes_le (b : List UInt8) : (decodeBytes b).2.length ≤ b.length := by
  induction b using decodeBytes.induct with
  | case1 b frame rest h => exact decodeBytes_some h ▸ Nat.le_of_lt (single_lt h)
  | case2 b rest h ih => exact decodeBytes_none h ▸ Nat.le_trans ih (Nat.le_of_lt (single_lt h))
  | case3 b e h => exact decodeBytes_error h ▸ Nat.le_refl _

/-- A frame that was decoded is gone. -/
theorem decodeBytes_lt {b rest : List UInt8} {frame : Frame}
    (h : decodeBytes b = (.ok frame, rest)) : rest.length < b.length := by
  induction b using decodeBytes.induct with
  | case1 b frame' rest' hs =>
    rw [decodeBytes_some hs] at h
    cases h
    exact single_lt hs
  | case2 b rest' hs ih =>
    rw [decodeBytes_none hs] at h
    exact Nat.lt_trans (ih h) (single_lt hs)
  | case3 b e hs =>
    rw [decodeBytes_error hs] at h
    cases h

/-- More bytes change nothing about an answer. -/
theorem decodeBytes_append_ok {b rest : List UInt8} {frame : Frame}
    (h : decodeBytes b = (.ok frame, rest)) (c : List UInt8) :
    decodeBytes (b ++ c) = (.ok frame, rest ++ c) := by
  induction b using decodeBytes.induct with
  | case1 b frame' rest' hs =>
    rw [decodeBytes_some hs] at h
    cases h
    exact decodeBytes_some (single_stable.append_ok hs c)
  | case2 b rest' hs ih =>
    rw [decodeBytes_none hs] at h
    rw [decodeBytes_none (single_stable.append_ok hs c)]
    exact ih h
  | case3 b e hs =>
    rw [decodeBytes_error hs] at h
    cases h

/-- Where `decode` was short it goes on behind the unknown frames it has skipped. -/
theorem decodeBytes_append_short {b rest : List UInt8}
    (h : decodeBytes b = (.error .incomplete, rest)) (c : List UInt8) :
    decodeBytes (b ++ c) = decodeBytes (rest ++ c) := by
  induction b using decodeBytes.induct with
  | case1 b frame rest' hs =>
    rw [decodeBytes_some hs] at h
    cases h
  | case2 b rest' hs ih =>
    rw [decodeBytes_none hs] at h
    rw [decodeBytes_none (single_stable.append_ok hs c)]
    exact ih h
  | case3 b e hs =>
    rw [decodeBytes_error hs] at h
    cases h
    rfl

/-- An error that is not for want of bytes stays. -/
theorem decodeBytes_append_error {b rest : List UInt8} {e : Error}
    (h : decodeBytes b = (.error e, rest)) (hne : e ≠ .incomplete) (c : List UInt8) :
    (decodeBytes (b ++ c)).1 = .error e := by
  induction b using decodeBytes.induct with
  | case1 b frame rest' hs =>
    rw [decodeBytes_some hs] at h
    cases h
  | case2 b rest' hs ih =>
    rw [decodeBytes_none hs] at h
    rw [decodeBytes_none (single_stable.append_ok hs c)]
    exact ih h
  | case3 b e' hs =>
    rw [decodeBytes_error hs] at h
    cases h
    rw [decodeBytes_error (single_stable.append_error hs hne c)]

section Decode

variable {σ β : Type} [Storage β] [Sequence σ β]

/-- The loop of `decode` on a sequence is that on its bytes. The induction is on the fuel, of which there is
more than bytes. -/
theorem decodeLoop_bytes {fuel : Nat} {s : σ} (hfuel : (Sequence.bytes s).length < fuel) :
    ((decodeLoop fuel s).1, Sequence.bytes (decodeLoop fuel s).2) =
      decodeBytes (Sequence.bytes s) := by
  induction fuel generalizing s with
  | zero => exact absurd hfuel (Nat.not_lt_zero _)
  | succ fuel ih =>
    have hsingle := decodeSingle_follows (Sequence.lookahead s)
    have hl : (Sequence.lookahead s).bytes = Sequence.bytes s := Sequence.lookahead_bytes s
    have hconsumed (n : Nat) : ((Sequence.lookahead s).consume n).consumed = n := by
      rw [Lookahead.consume_consumed, Sequence.lookahead_consumed, Nat.zero_add]
    have hrest {f : Option Frame} {rest : List UInt8}
        (h : single (Sequence.bytes s) = .ok (f, rest)) :
        (Sequence.bytes s).drop ((Sequence.bytes s).length - rest.length) = rest := by
      obtain ⟨c, hc⟩ := single_stable.splits h
      rw [hc, List.length_append, Nat.add_sub_cancel, List.drop_left]
    rw [decodeLoop]
    match h : single (Sequence.bytes s) with
    | .error e =>
      obtain ⟨he, hne⟩ := of_skipped_error (hsingle.of_error (by rw [hl, h]))
      rw [decodeBytes_error h]
      rcases hd : decodeSingle (Sequence.lookahead s) with ⟨r, l'⟩
      rw [hd] at he
      obtain rfl : r = .error e := he
      dsimp only
      rw [if_neg hne]
    | .ok (some frame, rest) =>
      rw [decodeBytes_some h, of_skipped_some (hsingle.of_ok (by rw [hl, h])), hl]
      dsimp only
      rw [hconsumed, Sequence.consume_eq, hrest h]
    | .ok (none, rest) =>
      rw [decodeBytes_none h, of_skipped_none (hsingle.of_ok (by rw [hl, h])), hl]
      dsimp only
      rw [if_pos rfl, hconsumed, ih, Sequence.consume_eq, hrest h]
      rw [Sequence.consume_eq, hrest h]
      have := single_lt h
      omega

/-- **`decode` sees nothing of a sequence but its bytes.** -/
theorem decode_bytes (s : σ) :
    ((decode s).1, Sequence.bytes (decode s).2) = decodeBytes (Sequence.bytes s) :=
  decodeLoop_bytes (Nat.lt_succ_of_le (Nat.le_of_eq (Sequence.size_eq s).symm))

/-- An answer of `decode`, from the bytes. -/
theorem decode_of_bytes {s : σ} {r : Except Error Frame} {rest : List UInt8}
    (h : decodeBytes (Sequence.bytes s) = (r, rest)) :
    ∃ s', decode s = (r, s') ∧ Sequence.bytes s' = rest := by
  have hb := decode_bytes s
  rw [h] at hb
  rcases hd : decode s with ⟨r₁, s₁⟩
  rw [hd] at hb
  cases hb
  exact ⟨s₁, rfl, rfl⟩

end Decode

/-! ## Peeking -/

/-- A round of `peek`. -/
def peekRound (_ : Unit) : Parser Error UInt8 (Unit ⊕ FrameType) := do
  let type ← Varint.parser
  match FrameType.ofValue type with
  | some type => pure (.inr type)
  | none => pure (.inl ())

/-- `peek` as a parser: varints up to and including a known type. -/
def peekParser : Parser Error UInt8 FrameType := Parser.loop .incomplete peekRound ()

/-- A varint that is a known type ends the loop. -/
theorem peekRound_of_known {b rest : List UInt8} {v : UInt64} {type : FrameType}
    (h : Varint.parser b = .ok (v, rest)) (ht : FrameType.ofValue v = some type) :
    peekRound () b = .ok (.inr type, rest) := by
  rw [peekRound, Parser.bind_ok h, ht]
  rfl

/-- Any other has it go on. -/
theorem peekRound_of_unknown {b rest : List UInt8} {v : UInt64}
    (h : Varint.parser b = .ok (v, rest)) (ht : FrameType.ofValue v = none) :
    peekRound () b = .ok (.inl (), rest) := by
  rw [peekRound, Parser.bind_ok h, ht]
  rfl

/-- A round that goes on has read something. -/
theorem peekRound_advances : Parser.Advances peekRound := by
  intro s b s' rest h
  obtain ⟨v, mid, hv, h⟩ := Parser.bind_eq_ok.mp h
  cases ht : FrameType.ofValue v with
  | some type =>
    rw [ht] at h
    cases h
  | none =>
    rw [ht] at h
    cases h
    exact Varint.parser_lt hv

/-- The first varint is a known type. -/
theorem peekParser_of_known {b rest : List UInt8} {v : UInt64} {type : FrameType}
    (h : Varint.parser b = .ok (v, rest)) (ht : FrameType.ofValue v = some type) :
    peekParser b = .ok (type, rest) :=
  Parser.loop_done peekRound_advances (peekRound_of_known h ht)

/-- The first varint is none. -/
theorem peekParser_of_unknown {b rest : List UInt8} {v : UInt64}
    (h : Varint.parser b = .ok (v, rest)) (ht : FrameType.ofValue v = none) :
    peekParser b = peekParser rest :=
  Parser.loop_next peekRound_advances (peekRound_of_unknown h ht)

/-- There is no first varint. -/
theorem peekParser_of_error {b : List UInt8} {e : Error} (h : Varint.parser b = .error e) :
    peekParser b = .error e :=
  Parser.loop_error peekRound_advances (Parser.bind_error h)

/-- The loop of `peek`, from its fuel. -/
theorem peekLoop_eq {β : Type} [Storage β] {fuel : Nat} {l : Lookahead β}
    (hfuel : l.bytes.length < fuel) : peekLoop fuel l = (peekParser l.bytes).map Prod.fst := by
  induction fuel generalizing l with
  | zero => exact absurd hfuel (Nat.not_lt_zero _)
  | succ fuel ih =>
    have hread := Varint.decode_follows l
    rw [peekLoop]
    match h : Varint.parser l.bytes with
    | .error e =>
      obtain ⟨l', hd⟩ := hread.stops h
      rw [hd, peekParser_of_error h]
      rfl
    | .ok (v, rest) =>
      have hd := hread.of_ok h
      have hlt := hread.length_lt (fun _ _ => Varint.parser_lt) hd
      have hrest : (l.consume (l.bytes.length - rest.length)).bytes = rest := by
        obtain ⟨c, hc⟩ := Varint.parser_stable.splits h
        rw [Lookahead.consume_bytes, hc, List.length_append, Nat.add_sub_cancel, List.drop_left]
      rw [hd]
      dsimp only
      cases ht : FrameType.ofValue v with
      | some type =>
        rw [peekParser_of_known h ht]
        rfl
      | none =>
        dsimp only
        rw [ih (by omega), peekParser_of_unknown h ht, hrest]

/-- **`peek` sees nothing of a sequence but its bytes.** -/
theorem peek_eq {σ β : Type} [Storage β] [Sequence σ β] (s : σ) :
    peek s = (peekParser (Sequence.bytes s)).map Prod.fst := by
  have hl : (Sequence.lookahead s).bytes = Sequence.bytes s := Sequence.lookahead_bytes s
  rw [peek, Sequence.size_eq, ← hl]
  exact peekLoop_eq (Nat.lt_succ_self _)

end Frame

end Bnl.Http3
