import Bnl.Laws.BlockSize
import Bnl.Laws.FrameLength
import Bnl.Codec.Headers
import Bnl.Library.Run

/-!
# HEADERS framing

The length that `headers::encoder` announces is counted in its QPACK encoder, the bytes wait in a list of
buffers. Every call keeps the two equal, the ones that fail too. Nothing asks that a header was accepted before
`fin`, though: without one the frame is followed by a `pop` that finds nothing.

**The law** is `framed_always_iff`, over any calls in any order: after each, what was returned begins the
HEADERS frame around the headers that were accepted, and is all of it once the encoder is finished; exactly in
the runs in which the frame is not asked for without a header, and not of a size that no varint holds. The
condition is on the state before a call.

**The invariant** is `Queued`: the buffers that wait are those of the headers accepted and not returned, and the
count is their size. It is a case for each state of the encoder, and each call is a lemma. Next to it stands
`Encoded`, that these buffers are what a fresh QPACK encoder makes of the headers, in their order; so the block
in the frame is that of the arguments of `add`, and by `block_roundTrip` reads back as them.
-/

namespace Bnl.Http3.Headers.Encoder

open Bnl.Base

/-! ## One call -/

variable {e : Encoder}

/-- A header is refused, and the encoder stays as it is, or its buffer is counted and queued. -/
theorem add_cases (host : Host) (e : Encoder) (header : Header) :
    (∃ error, e.add host header = (.error error, e) ∧ (e.state ≠ .idle → error = .internal)) ∨
    e.state = .idle ∧ ∃ encoded : Buffer, encoded.bytes ≠ [] ∧
      e.qpack.encodeBuffer host header =
        (.ok encoded, { state := .header, count := e.qpack.count + encoded.size }) ∧
      e.add host header = (.ok (), { e with
        buffers := e.buffers.push encoded
        qpack := { state := .header, count := e.qpack.count + encoded.size } }) := by
  unfold add
  by_cases hidle : e.state = .idle
  · rw [if_neg (not_not_intro hidle)]
    cases hlow : headerIsLowercase header with
    | false =>
      rw [Qpack.encodeBuffer_rejects hlow]
      exact .inl ⟨_, rfl, fun h => absurd hidle h⟩
    | true =>
      rw [Qpack.encodeBuffer_eq hlow]
      exact .inr ⟨hidle, _, Qpack.Encoder.wire_ne_nil e.qpack _, rfl, rfl⟩
  · rw [if_pos hidle]
    exact .inl ⟨_, rfl, fun _ => rfl⟩

/-- `fin` ends an encoder once. -/
theorem fin_cases (e : Encoder) : e.state ≠ .idle ∧ e.fin = (.error .internal, e) ∨
    e.state = .idle ∧ e.fin = (.ok (), { e with state := .frame }) := by
  unfold fin
  by_cases hidle : e.state = .idle
  · rw [if_neg (not_not_intro hidle)]
    exact .inr ⟨hidle, rfl⟩
  · rw [if_pos hidle]
    exact .inl ⟨hidle, rfl⟩

/-- The frame is encoded, or its size is too large for a varint. -/
theorem encode_frame (host : Host) (hs : e.state = .frame) {size : UInt64}
    (hsize : size = UInt64.ofNat e.qpack.count) :
    e.encode host = if size.toNat < 2 ^ 62 then
        (.ok ⟨(Frame.headers size).wire⟩, { e with state := .qpack })
      else (.error .varintOverflow, e) := by
  unfold encode
  rw [hs]
  dsimp only
  rw [← hsize]
  rw [Frame.encodeBuffer_size host (.inr rfl)]
  by_cases hlt : size.toNat < 2 ^ 62
  · rw [if_pos hlt, if_pos hlt]
  · rw [if_neg hlt, if_neg hlt]

/-- What is encoded is announced by the count, which stays. -/
theorem qpack_encode (host : Host) (e : Encoder) : (e.encode host).2.qpack = e.qpack := by
  unfold encode
  split
  · rfl
  · split <;> rfl
  · rfl
  · rfl

/-- A buffer that is not empty makes the list count. -/
theorem size_ne_zero {b : Buffer} {bs : List Buffer} (h : b.bytes ≠ []) :
    (⟨b :: bs⟩ : Buffers).size ≠ 0 := by
  rw [Buffers.size_eq]
  exact fun h0 => (List.append_ne_nil_of_left_ne_nil h _) (List.length_eq_zero_iff.mp h0)

/-- The next buffer is returned; the last one ends the block. -/
theorem encode_qpack (host : Host) (hs : e.state = .qpack) {encoded : Buffer} {left : List Buffer}
    (hb : e.buffers = ⟨encoded :: left⟩) (hne : ∀ b ∈ left, b.bytes ≠ []) :
    e.encode host = (.ok encoded, { e with
      buffers := ⟨left⟩, state := if left = [] then .fin else .qpack }) := by
  unfold encode
  rw [hs]
  dsimp only
  rw [hb, Buffers.pop]
  dsimp only
  cases left with
  | nil => rfl
  | cons b left =>
    rw [if_neg (List.cons_ne_nil b left), if_neg ?_]
    rw [Buffers.empty, beq_iff_eq]
    exact size_ne_zero (hne b List.mem_cons_self)

/-- `finished` is the last state. -/
theorem finished_iff : e.finished = true ↔ e.state = .fin := decide_eq_true_iff

/-! ## What is counted and what is queued -/

/-- How many bytes were accepted. -/
def total (accepted : List Buffer) : Nat := (⟨accepted⟩ : Buffers).size

/-- What is to be returned in all: a HEADERS frame with the size of what was accepted, and what was accepted. -/
def Announces (accepted out : List Buffer) : Prop :=
  ∃ size : UInt64, size.toNat = total accepted ∧ out = ⟨(Frame.headers size).wire⟩ :: accepted

/-- How many calls of `encode` are to come. -/
def owed (e : Encoder) : Nat :=
  match e.state with
  | .idle => e.buffers.buffers.length + 1
  | .frame => e.buffers.buffers.length + 1
  | .qpack => e.buffers.buffers.length
  | .fin => 0

/-- What was accepted was counted, and is queued as far as it was not returned. -/
structure Queued (e : Encoder) (accepted : List Buffer) (ended : Bool) (returned : List Buffer) : Prop where
  bytes : ∀ b ∈ accepted, b.bytes ≠ []
  count : e.qpack.count = total accepted
  state : match e.state with
    | .idle => ended = false ∧ returned = [] ∧ e.buffers = ⟨accepted⟩
    | .frame => ended = true ∧ returned = [] ∧ e.buffers = ⟨accepted⟩
    | .qpack => ended = true ∧ total accepted < 2 ^ 62 ∧ ∃ frame sent encoded left,
        Announces accepted (frame :: accepted) ∧ returned = frame :: sent ∧
          e.buffers = ⟨encoded :: left⟩ ∧ accepted = sent ++ encoded :: left
    | .fin => ended = true ∧ total accepted < 2 ^ 62 ∧ Announces accepted returned

namespace Queued

variable {accepted returned : List Buffer} {ended : Bool}

/-- In front of `fin`, all that was accepted waits. -/
theorem idle (h : Queued e accepted ended returned) (hs : e.state = .idle) :
    ended = false ∧ returned = [] ∧ e.buffers = ⟨accepted⟩ := by
  have := h.state
  rwa [hs] at this

/-- In front of the frame, too. -/
theorem frame (h : Queued e accepted ended returned) (hs : e.state = .frame) :
    ended = true ∧ returned = [] ∧ e.buffers = ⟨accepted⟩ := by
  have := h.state
  rwa [hs] at this

/-- Behind the frame, what was not returned waits, and there is some. -/
theorem qpack (h : Queued e accepted ended returned) (hs : e.state = .qpack) :
    ended = true ∧ total accepted < 2 ^ 62 ∧ ∃ frame sent encoded left,
      Announces accepted (frame :: accepted) ∧ returned = frame :: sent ∧
        e.buffers = ⟨encoded :: left⟩ ∧ accepted = sent ++ encoded :: left := by
  have := h.state
  rwa [hs] at this

/-- At the end, all was returned. -/
theorem fin (h : Queued e accepted ended returned) (hs : e.state = .fin) :
    ended = true ∧ total accepted < 2 ^ 62 ∧ Announces accepted returned := by
  have := h.state
  rwa [hs] at this

/-- `fin` was called in any other state than the first. -/
theorem ended_eq (h : Queued e accepted ended returned) (hs : e.state ≠ .idle) : ended = true := by
  cases hs' : e.state with
  | idle => exact absurd hs' hs
  | frame => exact (h.frame hs').1
  | qpack => exact (h.qpack hs').1
  | fin => exact (h.fin hs').1

/-- A new encoder has accepted nothing. -/
theorem new : Queued {} [] false [] := ⟨nofun, rfl, rfl, rfl, rfl⟩

/-- A header that is accepted is counted and queued. -/
theorem push (h : Queued e accepted ended returned) (hs : e.state = .idle) {encoded : Buffer}
    (hne : encoded.bytes ≠ []) :
    Queued { e with
      buffers := e.buffers.push encoded
      qpack := { state := .header, count := e.qpack.count + encoded.size } }
      (accepted ++ [encoded]) ended returned where
  bytes b hb := by
    rcases List.mem_append.mp hb with hb | hb
    · exact h.bytes b hb
    · exact List.mem_singleton.mp hb ▸ hne
  count := by
    dsimp only [total, Buffers.size]
    rw [h.count, List.map_append, List.sum_append]
    rfl
  state := by
    obtain ⟨hended, hreturned, hbuffers⟩ := h.idle hs
    dsimp only
    rw [hs]
    exact ⟨hended, hreturned, by rw [hbuffers]; rfl⟩

/-- `fin` changes nothing of what waits. -/
theorem started (h : Queued e accepted ended returned) (hs : e.state = .idle) :
    Queued { e with state := .frame } accepted true returned :=
  ⟨h.bytes, h.count, rfl, (h.idle hs).2⟩

/-- Nothing is popped from an empty list. -/
theorem pops (h : Queued e accepted ended returned) : ¬ (e.state = .qpack ∧ e.buffers.size = 0) := by
  rintro ⟨hs, hzero⟩
  obtain ⟨-, -, frame, sent, encoded, left, -, -, hbuffers, haccepted⟩ := h.qpack hs
  refine size_ne_zero (h.bytes encoded ?_) (hbuffers ▸ hzero)
  rw [haccepted]
  exact List.mem_append_right sent List.mem_cons_self

/-- A call on a block of this size returns the next buffer. -/
theorem encode (host : Host) (h : Queued e accepted ended returned) (hidle : e.state ≠ .idle)
    (hfin : e.state ≠ .fin) (hne : accepted ≠ []) (hlt : total accepted < 2 ^ 62) :
    ∃ b e', e.encode host = (.ok b, e') ∧ Queued e' accepted ended (returned ++ [b]) ∧
      e'.state ≠ .idle ∧ e'.state ≠ .frame ∧ e'.owed < e.owed := by
  cases hs : e.state with
  | idle => exact absurd hs hidle
  | fin => exact absurd hs hfin
  | frame =>
    obtain ⟨hended, hreturned, hbuffers⟩ := h.frame hs
    have hsize : (UInt64.ofNat e.qpack.count).toNat = total accepted := by
      rw [h.count]
      exact UInt64.toNat_ofNat_of_lt' (Nat.lt_trans hlt (by decide))
    rw [encode_frame host hs rfl, if_pos (by rw [hsize]; exact hlt)]
    obtain ⟨encoded, left, hcons⟩ := List.exists_cons_of_ne_nil hne
    refine ⟨_, _, rfl, ⟨h.bytes, h.count, ?_⟩, nofun, nofun, ?_⟩
    · exact ⟨hended, hlt, _, [], encoded, left, ⟨_, hsize, rfl⟩, by rw [hreturned]; rfl,
        by rw [← hcons]; exact hbuffers, hcons⟩
    · unfold owed
      rw [hs]
      exact Nat.lt_succ_self _
  | qpack =>
    obtain ⟨hended, -, frame, sent, encoded, left, hout, hreturned, hbuffers, haccepted⟩ := h.qpack hs
    have hleft (b : Buffer) (hb : b ∈ left) : b.bytes ≠ [] := by
      refine h.bytes b ?_
      rw [haccepted]
      exact List.mem_append_right sent (List.mem_cons_of_mem encoded hb)
    refine ⟨_, _, encode_qpack host hs hbuffers hleft, ⟨h.bytes, h.count, ?_⟩, ?_⟩
    · cases left with
      | nil => exact ⟨hended, hlt, by rw [hreturned, List.cons_append, ← haccepted]; exact hout⟩
      | cons b left =>
        exact ⟨hended, hlt, frame, sent ++ [encoded], b, left, hout, by rw [hreturned]; rfl, rfl,
          by rw [haccepted, List.append_assoc]; rfl⟩
    · unfold owed
      rw [hs, hbuffers]
      cases left with
      | nil => exact ⟨nofun, nofun, Nat.one_pos⟩
      | cons b left => exact ⟨nofun, nofun, Nat.lt_succ_self _⟩

/-- What was returned is the beginning of what was announced, and the whole of it at the end. -/
theorem announced (h : Queued e accepted ended returned) (hidle : e.state ≠ .idle)
    (hframe : e.state ≠ .frame) : ∃ out, Announces accepted out ∧ returned <+: out ∧
      (e.finished = true ↔ returned = out) := by
  rw [finished_iff]
  cases hs : e.state with
  | idle => exact absurd hs hidle
  | frame => exact absurd hs hframe
  | qpack =>
    obtain ⟨-, -, frame, sent, encoded, left, hout, hreturned, -, haccepted⟩ := h.qpack hs
    refine ⟨_, hout, ?_, nofun, fun heq => ?_⟩
    · rw [hreturned, haccepted]
      exact ⟨encoded :: left, rfl⟩
    · rw [hreturned, haccepted] at heq
      have := congrArg List.length heq
      simp only [List.length_cons, List.length_append] at this
      omega
  | fin => exact ⟨returned, (h.fin hs).2.2, List.prefix_refl _, fun _ => rfl, fun _ => rfl⟩

end Queued

/-! ## Any calls -/

namespace Framing

/-- What is done with an encoder. -/
inductive Action where
  | add (header : Header)
  | fin
  | encode

/-- An encoder, the headers it has accepted and the buffers it queued for them, whether `fin` was, what `encode`
has returned, and the last answer. -/
structure World where
  encoder : Encoder := {}
  headers : List Header := []
  accepted : List Buffer := []
  ended : Bool := false
  returned : List Buffer := []
  answer : Except Error (Option Buffer) := .ok none

/-- A call, with what it accepted, ended or returned noted. -/
def step (host : Host) (w : World) : Action → Option World
  | .add header =>
    match w.encoder.add host header with
    | (.error error, encoder) => some { w with encoder, answer := .error error }
    | (.ok _, encoder) =>
      some { w with
        encoder
        headers := w.headers ++ [header]
        accepted := w.accepted ++ [encoder.buffers.back]
        answer := .ok none }
  | .fin =>
    match w.encoder.fin with
    | (.error error, encoder) => some { w with encoder, answer := .error error }
    | (.ok _, encoder) => some { w with encoder, ended := true, answer := .ok none }
  | .encode =>
    -- the assertion of `pop`
    if w.encoder.state = .qpack ∧ w.encoder.buffers.size = 0 then none
    else
      match w.encoder.encode host with
      | (.error error, encoder) => some { w with encoder, answer := .error error }
      | (.ok encoded, encoder) =>
        some { w with encoder, returned := w.returned ++ [encoded], answer := .ok (some encoded) }

/-- The buffers of the accepted headers are what a fresh QPACK encoder makes of these headers. -/
def World.Encoded (host : Host) (w : World) : Prop :=
  Qpack.Encoder.encodeAll host {} w.headers = (.ok (⟨w.accepted⟩ : Buffers).bytes, w.encoder.qpack)

/-- A call as it should be. -/
def Framed (host : Host) (w : World) (a : Action) (w' : World) : Prop :=
  w'.Encoded host ∧ match a with
  | .add _ => (∀ error, w'.answer = .error error → w'.encoder = w.encoder) ∧
      (w.encoder.finished = true → w'.answer = .error .internal)
  | .fin => w.encoder.finished = true → w'.answer = .error .internal
  | .encode => (w.encoder.finished = true → w'.answer = .error .internal) ∧
      (w.ended = true → w.encoder.finished = false → ∃ out encoded, Announces w.accepted out ∧
        w'.answer = .ok (some encoded) ∧ w'.returned = w.returned ++ [encoded] ∧ w'.returned <+: out ∧
          (w'.encoder.finished = true ↔ w'.returned = out))

/-- Behind `fin`, a header was accepted, and not more than a frame can announce. -/
def Admits (w : World) : Action → Prop
  | .encode => w.ended = true → w.encoder.finished = false →
      w.accepted ≠ [] ∧ total w.accepted < 2 ^ 62
  | _ => True

/-- What holds of every world that a run comes to. -/
structure Holds (host : Host) (w : World) : Prop where
  queued : Queued w.encoder w.accepted w.ended w.returned
  encoded : w.Encoded host

variable {host : Host} {w w' : World}

/-- A call that leaves the headers and their encoder alone leaves the block alone. -/
theorem World.Encoded.congr (h : w.Encoded host) (hheaders : w'.headers = w.headers)
    (haccepted : w'.accepted = w.accepted) (hqpack : w'.encoder.qpack = w.encoder.qpack) : w'.Encoded host := by
  unfold World.Encoded
  rw [hheaders, haccepted, hqpack]
  exact h

/-- A header that is accepted goes behind the others in the block. -/
theorem World.Encoded.push (h : w.Encoded host) {header : Header} {encoded : Buffer} {qpack : Qpack.Encoder}
    (hnext : w.encoder.qpack.encodeBuffer host header = (.ok encoded, qpack))
    (hheaders : w'.headers = w.headers ++ [header]) (haccepted : w'.accepted = w.accepted ++ [encoded])
    (hqpack : w'.encoder.qpack = qpack) : w'.Encoded host := by
  unfold World.Encoded
  rw [hheaders, haccepted, hqpack]
  refine (Qpack.Encoder.encodeAll_concat h hnext).trans ?_
  simp only [Buffers.bytes, List.flatMap_append, List.flatMap_singleton]

/-- The call that returns the frame asks for both. -/
theorem admits_of_frame (h : Holds host w) (hs : w.encoder.state = .frame)
    (hw' : step host w .encode = some w') (hframed : Framed host w .encode w') :
    w.accepted ≠ [] ∧ total w.accepted < 2 ^ 62 := by
  obtain ⟨hended, hreturned, -⟩ := h.queued.frame hs
  have hopen : w.encoder.finished = false := by
    rw [← Bool.not_eq_true, finished_iff, hs]
    exact nofun
  obtain ⟨out, encoded, ⟨size, hsize, rfl⟩, hanswer, hback, hfirst, hdone⟩ := hframed.2.2 hended hopen
  have hofNat : size = UInt64.ofNat w.encoder.qpack.count := by
    rw [h.queued.count, ← hsize, UInt64.ofNat_toNat]
  rw [step, if_neg h.queued.pops, encode_frame host hs hofNat] at hw'
  by_cases hlt : size.toNat < 2 ^ 62
  · rw [if_pos hlt] at hw'
    cases hw'
    refine ⟨fun hnil => ?_, hsize ▸ hlt⟩
    rw [finished_iff, hreturned, hnil] at hdone
    exact nomatch hdone.mpr rfl
  · rw [if_neg hlt] at hw'
    cases hw'
    cases hanswer

/-- A call on a block of this size is as it should be. -/
theorem encode_framed (h : Holds host w) (hidle : w.encoder.state ≠ .idle) (hfin : w.encoder.state ≠ .fin)
    (hne : w.accepted ≠ []) (hlt : total w.accepted < 2 ^ 62) :
    ∃ w', step host w .encode = some w' ∧ Framed host w .encode w' ∧ Holds host w' := by
  obtain ⟨b, e', he, hq, hidle', hframe', -⟩ := Queued.encode host h.queued hidle hfin hne hlt
  have hqpack : e'.qpack = w.encoder.qpack := by
    have hqpack := qpack_encode host w.encoder
    rw [he] at hqpack
    exact hqpack
  rw [step, if_neg h.queued.pops, he]
  refine ⟨_, rfl, ⟨h.encoded.congr rfl rfl hqpack, ?_⟩, hq, h.encoded.congr rfl rfl hqpack⟩
  refine ⟨fun hdone => absurd (finished_iff.mp hdone) hfin, fun _ _ => ?_⟩
  obtain ⟨out, hout, hpre, hdone⟩ := hq.announced hidle' hframe'
  exact ⟨out, b, hout, rfl, rfl, hpre, hdone⟩

/-- A header is accepted and waits, or it is refused and nothing changes. -/
theorem step_add (h : Holds host w) (header : Header) : ∃ w', step host w (.add header) = some w' ∧
    Framed host w (.add header) w' ∧ Holds host w' := by
  unfold step
  dsimp only
  rcases add_cases host w.encoder header with ⟨error, ha, hlate⟩ | ⟨hidle, encoded, hne, hbuffer, ha⟩
  · rw [ha]
    refine ⟨_, rfl, ⟨h.encoded, fun _ _ => rfl, fun hfin => ?_⟩, h.queued, h.encoded⟩
    dsimp only
    rw [hlate (by rw [finished_iff.mp hfin]; exact nofun)]
  · rw [ha]
    dsimp only
    rw [Buffers.back, Buffers.push, List.getLastD_concat]
    have hencoded : World.Encoded host { w with
        encoder := { w.encoder with
          buffers := w.encoder.buffers.push encoded
          qpack := { state := .header, count := w.encoder.qpack.count + encoded.size } }
        headers := w.headers ++ [header]
        accepted := w.accepted ++ [encoded] } := h.encoded.push hbuffer rfl rfl rfl
    refine ⟨_, rfl, ⟨hencoded, fun _ herror => ?_, fun hfin => ?_⟩, h.queued.push hidle hne, hencoded⟩
    · cases herror
    · cases hidle.symm.trans (finished_iff.mp hfin)

theorem step_fin (h : Holds host w) : ∃ w', step host w .fin = some w' ∧ Framed host w .fin w' ∧
    Holds host w' := by
  unfold step
  dsimp only
  rcases fin_cases w.encoder with ⟨-, ha⟩ | ⟨hidle, ha⟩
  · rw [ha]
    exact ⟨_, rfl, ⟨h.encoded, fun _ => rfl⟩, h.queued, h.encoded⟩
  · rw [ha]
    refine ⟨_, rfl, ⟨h.encoded, fun hfin => ?_⟩, h.queued.started hidle, h.encoded⟩
    exact nomatch hidle.symm.trans (finished_iff.mp hfin)

/-- Outside the two states in which a frame or a block is returned, `encode` refuses and changes nothing. -/
theorem encode_refuses (h : Holds host w) (hs : w.encoder.state = .idle ∨ w.encoder.state = .fin) :
    Admits w .encode ∧ ∃ w', step host w .encode = some w' ∧ Framed host w .encode w' ∧ Holds host w' := by
  have hnot (hended : w.ended = true) (hopen : w.encoder.finished = false) : False := by
    rcases hs with hidle | hfin
    · rw [(h.queued.idle hidle).1] at hended
      cases hended
    · rw [finished_iff.mpr hfin] at hopen
      cases hopen
  refine ⟨fun hended hopen => (hnot hended hopen).elim, ?_⟩
  rw [step, if_neg h.queued.pops, encode]
  rcases hs with hs | hs
  · rw [hs]
    refine ⟨_, rfl, ⟨h.encoded, fun hfin => ?_, fun hended hopen => (hnot hended hopen).elim⟩, h.queued, h.encoded⟩
    exact nomatch hs.symm.trans (finished_iff.mp hfin)
  · rw [hs]
    exact ⟨_, rfl, ⟨h.encoded, fun _ => rfl, fun hended hopen => (hnot hended hopen).elim⟩, h.queued, h.encoded⟩

/-- An admitted call is as it should be, and keeps the count and the queue together. -/
theorem Holds.step (h : Holds host w) {a : Action} (ha : Admits w a) :
    ∃ w', Framing.step host w a = some w' ∧ Framed host w a w' ∧ Holds host w' := by
  cases a with
  | add header => exact step_add h header
  | fin => exact step_fin h
  | encode =>
    by_cases hidle : w.encoder.state = .idle
    · exact (encode_refuses h (.inl hidle)).2
    by_cases hfin : w.encoder.state = .fin
    · exact (encode_refuses h (.inr hfin)).2
    have hopen : w.encoder.finished = false := by rwa [← Bool.not_eq_true, finished_iff]
    obtain ⟨hne, hlt⟩ := ha (h.queued.ended_eq hidle) hopen
    exact encode_framed h hidle hfin hne hlt

/-- A call that is as it should be was admitted. -/
theorem Holds.admits (h : Holds host w) {a : Action} (hw' : Framing.step host w a = some w')
    (hframed : Framed host w a w') : Admits w a := by
  cases a with
  | add header => trivial
  | fin => trivial
  | encode =>
    intro hended hopen
    cases hs : w.encoder.state with
    | idle => exact (encode_refuses h (.inl hs)).1 hended hopen
    | fin => exact (encode_refuses h (.inr hs)).1 hended hopen
    | frame => exact admits_of_frame h hs hw' hframed
    | qpack =>
      obtain ⟨-, hlt, frame, sent, encoded, left, -, -, -, haccepted⟩ := h.queued.qpack hs
      refine ⟨?_, hlt⟩
      rw [haccepted]
      exact List.append_ne_nil_of_right_ne_nil sent (List.cons_ne_nil encoded left)

/-- **An encoder frames its headers in exactly those runs in which it is not asked for a frame without a
header**, or of a size that no frame announces. What it frames is what a fresh QPACK encoder makes of the headers
that were accepted (`World.Encoded`), so a header that was refused leaves no trace in it. -/
theorem framed_always_iff (host : Host) (actions : List Action) :
    Run.Always (step host) (Framed host) {} actions ↔ Run.Meets (step host) Admits {} actions := by
  refine Run.always_iff (I := Holds host) (fun w a h => ⟨fun ha => ?_, ?_⟩)
    (fun w a w' h hw' hframed => ?_) ⟨.new, rfl⟩
  · obtain ⟨w', hw', hframed, -⟩ := h.step ha
    exact ⟨w', hw', hframed⟩
  · rintro ⟨w', hw', hframed⟩
    exact h.admits hw' hframed
  · obtain ⟨w'', hw'', -, hholds⟩ := h.step (h.admits hw' hframed)
    cases hw'.symm.trans hw''
    exact hholds

/-- `fin` without a header: the frame announces no bytes, and the call behind it pops from an empty list. -/
theorem framed_not : ¬ ∀ (host : Host) (actions : List Action),
    Run.Always (step host) (Framed host) {} actions := by
  intro h
  exact (h Qpack.xxHost [.fin, .encode, .encode]).after_ne rfl

end Framing

end Bnl.Http3.Headers.Encoder
