import Bnl.Laws.FrameWire

/-!
# Where a frame's verdict comes from

Each payload is read from the stream, and its length compared with the announced one afterwards. So a frame
whose payload is there can still be answered `incomplete`, or by the bytes behind it: that is so where the
fields the payload describes itself do not end within it (`FieldsEnd`), and only there.

**The law** is `local_iff`, for a frame of any known type, its type and length written as any varints, and any
payload of that length. It says two things of the same condition: that the verdict and the bytes consumed are
the same whatever follows, and that there is a verdict at all. `FieldsEnd` is about the bytes of the payload and
is said by `Varint.skip`, which looks at the first byte of a varint only; no decoder is in it.

In one direction a payload that is read from its own bytes is read the same in front of others, by stability. In
the other there are two inputs that tell: nothing behind, where the frame is incomplete, and enough behind,
where it is not (`payload_of_long`).
-/

namespace Bnl.Http3

open Incremental Bnl.Base

/-- What is left behind a varint, whose first byte tells its size. -/
def Varint.skip : List UInt8 → Option (List UInt8)
  | [] => none
  | first :: rest =>
    let size := 2 ^ (first.toNat / 64) - 1
    if size ≤ rest.length then some (rest.drop size) else none

namespace Varint

/-- It skips what the parser reads. -/
theorem skip_eq_some {b rest : List UInt8} :
    skip b = some rest ↔ ∃ v, parser b = .ok (v, rest) := by
  cases b with
  | nil =>
    constructor
    · intro h
      cases h
    · rintro ⟨v, h⟩
      cases h
  | cons first tl =>
    have hpos := Nat.two_pow_pos (first.toNat / 64)
    unfold skip
    dsimp only
    by_cases hlen : 2 ^ (first.toNat / 64) - 1 ≤ tl.length
    · have htake : (tl.take (2 ^ (first.toNat / 64) - 1)).length + 1 = 2 ^ (first.toNat / 64) := by
        rw [List.length_take]
        omega
      have hread := parser_cons htake (tl.drop (2 ^ (first.toNat / 64) - 1))
      rw [List.take_append_drop] at hread
      rw [if_pos hlen, hread]
      constructor
      · intro h
        exact ⟨_, congrArg (fun r => Except.ok (_, r)) (Option.some.inj h)⟩
      · rintro ⟨v, h⟩
        exact congrArg some (congrArg Prod.snd (Except.ok.inj h))
    · rw [if_neg hlen, parser_cons_short (by omega)]
      constructor
      · intro h
        cases h
      · rintro ⟨v, h⟩
        cases h

end Varint

namespace Frame

/-- Varints in pairs, to the end. -/
inductive WholeSettings : List UInt8 → Prop where
  | nil : WholeSettings []
  | cons {b b₁ b₂ : List UInt8} : Varint.skip b = some b₁ → Varint.skip b₁ = some b₂ →
    WholeSettings b₂ → WholeSettings b

/-- The fields a payload describes itself end within it. -/
def FieldsEnd (type : FrameType) (p : List UInt8) : Prop :=
  match type with
  | .data | .headers => True
  | .priority => ∃ byte b b₁ b₂, p = byte :: b ∧ Varint.skip b = some b₁ ∧
      Varint.skip b₁ = some b₂ ∧ b₂ ≠ []
  | .settings => WholeSettings p
  | .pushPromise | .cancelPush | .goaway | .maxPushId | .duplicatePush =>
    (Varint.skip p).isSome = true

/-- How many bytes `decode` consumes. -/
def consumed (s : Buffers) : Nat := s.bytes.length - (decode s).2.bytes.length

/-- The verdict on the frame and the bytes consumed are the same whatever follows. -/
def Local (b : List UInt8) : Prop :=
  ∀ (s s' : List UInt8) (x y : Buffers), x.bytes = b ++ s → y.bytes = b ++ s' →
    (decode x).1 = (decode y).1 ∧ consumed x = consumed y

/-- The bytes suffice for a verdict, whatever follows. -/
def Decided (b : List UInt8) : Prop :=
  ∀ (s : List UInt8) (x : Buffers), x.bytes = b ++ s → (decode x).1 ≠ .error .incomplete

/-! ## Payloads that are there -/

/-- A setting is two varints. -/
theorem setting_skips {b rest : List UInt8} :
    (∃ r, setting b = .ok (r, rest)) ↔ ∃ b₁, Varint.skip b = some b₁ ∧ Varint.skip b₁ = some rest := by
  constructor
  · rintro ⟨r, h⟩
    obtain ⟨id, b₁, hid, h⟩ := Parser.bind_eq_ok.mp h
    obtain ⟨value, b₂, hvalue, h⟩ := Parser.bind_eq_ok.mp h
    cases h
    exact ⟨b₁, Varint.skip_eq_some.mpr ⟨id, hid⟩, Varint.skip_eq_some.mpr ⟨value, hvalue⟩⟩
  · rintro ⟨b₁, h₁, h₂⟩
    obtain ⟨id, hid⟩ := Varint.skip_eq_some.mp h₁
    obtain ⟨value, hvalue⟩ := Varint.skip_eq_some.mp h₂
    exact ⟨(id, value), (Parser.bind_ok hid).trans (Parser.bind_ok hvalue)⟩

/-- A round of the loop over the settings where there is a setting. -/
theorem settingsRound_next {size : UInt64} {n : Nat} {s : Settings} {b rest : List UInt8}
    {r : UInt64 × UInt64} (hn : n < size.toNat) (h : setting b = .ok (r, rest)) :
    settingsRound size (n, s) b =
      .ok (.inl (n + (b.length - rest.length), updateSettings s r.1 r.2), rest) := by
  unfold settingsRound
  rw [if_pos hn, Parser.bind_ok (Parser.measure_ok h)]
  rfl

/-- The payload is used up. -/
theorem settingsRound_done {size : UInt64} {n : Nat} {s : Settings} (b : List UInt8)
    (hn : ¬ n < size.toNat) : settingsRound size (n, s) b = .ok (.inr s, b) := by
  unfold settingsRound
  rw [if_neg hn]
  rfl

/-- A setting is cut off. -/
theorem settingsRound_error {size : UInt64} {n : Nat} {s : Settings} {b : List UInt8} {e : Error}
    (hn : n < size.toNat) (h : setting b = .error e) : settingsRound size (n, s) b = .error e := by
  unfold settingsRound
  rw [if_pos hn, Parser.bind_error (Parser.measure_error h)]

/-- The loop over the settings answers on its payload alone exactly where that is whole. -/
theorem settingsLoop_iff {size : UInt64} {n : Nat} {s : Settings} {b : List UInt8}
    (hsize : n + b.length = size.toNat) :
    (∃ r, Parser.loop .incomplete (settingsRound size) (n, s) b = .ok r) ↔ WholeSettings b := by
  have hadv := settingsRound_advances size
  induction hk : b.length using Nat.strongRecOn generalizing n s b with
  | ind k ih =>
    subst hk
    by_cases hn : n < size.toNat
    · cases hb : setting b with
      | error e =>
        rw [Parser.loop_error hadv (settingsRound_error hn hb)]
        constructor
        · rintro ⟨r, h⟩
          cases h
        · intro h
          cases h with
          | nil =>
            rw [List.length_nil] at hsize
            omega
          | cons h₁ h₂ _ =>
            obtain ⟨r, hr⟩ := setting_skips.mpr ⟨_, h₁, h₂⟩
            rw [hb] at hr
            cases hr
      | ok q =>
        obtain ⟨r, rest⟩ := q
        have hlt := setting_lt hb
        have hnext := ih rest.length hlt (n := n + (b.length - rest.length))
          (s := updateSettings s r.1 r.2) (b := rest) (by omega) rfl
        rw [Parser.loop_next hadv (settingsRound_next hn hb)]
        refine hnext.trans ?_
        constructor
        · intro h
          obtain ⟨b₁, h₁, h₂⟩ := setting_skips.mp ⟨r, hb⟩
          exact .cons h₁ h₂ h
        · intro h
          cases h with
          | nil => cases hlt
          | cons h₁ h₂ h =>
            obtain ⟨r', hr'⟩ := setting_skips.mpr ⟨_, h₁, h₂⟩
            rw [hb] at hr'
            cases hr'
            exact h
    · rw [Parser.loop_done hadv (settingsRound_done b hn)]
      obtain rfl : b = [] := List.length_eq_zero_iff.mp (by omega)
      exact iff_of_true ⟨_, rfl⟩ .nil

/-- **A payload is read from its own bytes exactly where its fields end within it.** -/
theorem payload_ok_iff {type : FrameType} {size : UInt64} {p : List UInt8}
    (hsize : p.length = size.toNat) : (∃ r, payload type size p = .ok r) ↔ FieldsEnd type p := by
  have hvarint (k : UInt64 → Frame × UInt64) :
      (∃ r, (Varint.parser >>= fun v => pure (k v)) p = .ok r) ↔
        (Varint.skip p).isSome = true := by
    rw [Option.isSome_iff_exists]
    constructor
    · rintro ⟨⟨a, r⟩, h⟩
      obtain ⟨v, rest, hv, -⟩ := Parser.bind_eq_ok.mp h
      exact ⟨rest, Varint.skip_eq_some.mpr ⟨v, hv⟩⟩
    · rintro ⟨rest, h⟩
      obtain ⟨v, hv⟩ := Varint.skip_eq_some.mp h
      exact ⟨_, Parser.bind_ok hv⟩
  cases type with
  | data => exact iff_of_true ⟨_, rfl⟩ trivial
  | headers => exact iff_of_true ⟨_, rfl⟩ trivial
  | priority =>
    unfold payload FieldsEnd
    dsimp only
    constructor
    · rintro ⟨⟨a, r⟩, h⟩
      obtain ⟨byte, b, hb, h⟩ := Parser.bind_eq_ok.mp h
      obtain ⟨id, b₁, hid, h⟩ := Parser.bind_eq_ok.mp h
      obtain ⟨dependency, b₂, hdependency, h⟩ := Parser.bind_eq_ok.mp h
      obtain ⟨weight, b₃, hweight, -⟩ := Parser.bind_eq_ok.mp h
      cases p with
      | nil => cases hb
      | cons first tl =>
        cases hb
        refine ⟨_, _, b₁, b₂, rfl, Varint.skip_eq_some.mpr ⟨id, hid⟩,
          Varint.skip_eq_some.mpr ⟨dependency, hdependency⟩, ?_⟩
        rintro rfl
        cases hweight
    · rintro ⟨byte, b, b₁, b₂, rfl, h₁, h₂, hne⟩
      obtain ⟨id, hid⟩ := Varint.skip_eq_some.mp h₁
      obtain ⟨dependency, hdependency⟩ := Varint.skip_eq_some.mp h₂
      obtain ⟨weight, rest, rfl⟩ := List.exists_cons_of_ne_nil hne
      rw [Parser.bind_ok (Parser.item_cons _ _ _), Parser.bind_ok hid,
        Parser.bind_ok hdependency, Parser.bind_ok (Parser.item_cons _ _ _)]
      exact ⟨_, rfl⟩
  | settings =>
    have hloop := settingsLoop_iff (s := {}) ((Nat.zero_add p.length).trans hsize)
    refine Iff.trans ?_ hloop
    constructor
    · rintro ⟨⟨a, r⟩, h⟩
      obtain ⟨s, rest, hs, -⟩ := Parser.bind_eq_ok.mp h
      exact ⟨_, hs⟩
    · rintro ⟨⟨s, rest⟩, h⟩
      exact ⟨_, Parser.bind_ok h⟩
  | pushPromise =>
    have hmeasure : (∃ r, payload .pushPromise size p = .ok r) ↔
        ∃ r, (Varint.parser >>= fun v => pure (Frame.goaway v, size)) p = .ok r := by
      unfold payload
      dsimp only
      cases hv : Varint.parser p with
      | error e =>
        rw [Parser.bind_error (Parser.measure_error hv), Parser.bind_error hv]
      | ok q =>
        rw [Parser.bind_ok (Parser.measure_ok hv), Parser.bind_ok hv]
        exact iff_of_true ⟨_, rfl⟩ ⟨_, rfl⟩
    exact hmeasure.trans (hvarint _)
  | cancelPush => exact hvarint _
  | goaway => exact hvarint _
  | maxPushId => exact hvarint _
  | duplicatePush => exact hvarint _

/-! ## Payloads and what follows them -/

/-- Any eight bytes begin with a varint. -/
theorem parser_of_long {b : List UInt8} (h : 8 ≤ b.length) : ∃ v rest,
    Varint.parser b = .ok (v, rest) ∧ b.length ≤ rest.length + 8 := by
  cases hv : Varint.parser b with
  | ok q =>
    obtain ⟨v, rest⟩ := q
    obtain ⟨c, k, rfl, hk, hlen, -⟩ := Varint.parser_splits hv
    have hk8 : 2 ^ k ≤ 2 ^ 3 := Nat.pow_le_pow_right (by decide) (Nat.le_of_lt_succ hk)
    refine ⟨v, rest, rfl, ?_⟩
    rw [List.length_append]
    omega
  | error e =>
    cases b with
    | nil => exact absurd h (by decide)
    | cons first tl =>
      have h4 : first.toNat / 64 < 4 := Nat.div_lt_of_lt_mul first.toNat_lt
      have h8 : 2 ^ (first.toNat / 64) ≤ 2 ^ 3 :=
        Nat.pow_le_pow_right (by decide) (Nat.le_of_lt_succ h4)
      have hskip : Varint.skip (first :: tl) = some (tl.drop (2 ^ (first.toNat / 64) - 1)) := by
        rw [List.length_cons] at h
        exact if_pos (by omega)
      obtain ⟨v, hv'⟩ := Varint.skip_eq_some.mp hskip
      rw [hv] at hv'
      cases hv'

/-- Any sixteen begin with a setting. -/
theorem setting_of_long {b : List UInt8} (h : 16 ≤ b.length) : ∃ r rest,
    setting b = .ok (r, rest) ∧ b.length ≤ rest.length + 16 := by
  obtain ⟨id, b₁, hid, hlen⟩ := parser_of_long (b := b) (by omega)
  obtain ⟨value, b₂, hvalue, hlen'⟩ := parser_of_long (b := b₁) (by omega)
  exact ⟨(id, value), b₂, (Parser.bind_ok hid).trans (Parser.bind_ok hvalue), by omega⟩

/-- With bytes enough behind it, the loop over the settings comes to its end. -/
theorem settingsLoop_of_long {size : UInt64} {n : Nat} {s : Settings} {b : List UInt8}
    (h : size.toNat + 16 ≤ n + b.length) :
    ∃ r, Parser.loop .incomplete (settingsRound size) (n, s) b = .ok r := by
  have hadv := settingsRound_advances size
  induction hk : b.length using Nat.strongRecOn generalizing n s b with
  | ind k ih =>
    subst hk
    by_cases hn : n < size.toNat
    · obtain ⟨r, rest, hr, hlen⟩ := setting_of_long (b := b) (by omega)
      have hlt := setting_lt hr
      rw [Parser.loop_next hadv (settingsRound_next hn hr)]
      exact ih rest.length hlt (by omega) rfl
    · rw [Parser.loop_done hadv (settingsRound_done b hn)]
      exact ⟨_, rfl⟩

/-- With bytes enough behind it, any payload can be read. -/
theorem payload_of_long {type : FrameType} {size : UInt64} {b : List UInt8}
    (h : size.toNat + 18 ≤ b.length) : ∃ r, payload type size b = .ok r := by
  obtain ⟨v, rest, hv, -⟩ := parser_of_long (b := b) (by omega)
  have hvarint (k : UInt64 → Frame × UInt64) :
      ∃ r, (Varint.parser >>= fun v => pure (k v)) b = .ok r := ⟨_, Parser.bind_ok hv⟩
  cases type with
  | data => exact ⟨_, rfl⟩
  | headers => exact ⟨_, rfl⟩
  | priority =>
    obtain ⟨byte, b₀, rfl⟩ := List.exists_cons_of_ne_nil (l := b) (by rintro rfl; cases h)
    rw [List.length_cons] at h
    obtain ⟨id, b₁, hid, hlen⟩ := parser_of_long (b := b₀) (by omega)
    obtain ⟨dependency, b₂, hdependency, hlen'⟩ := parser_of_long (b := b₁) (by omega)
    obtain ⟨weight, b₃, rfl⟩ := List.exists_cons_of_ne_nil (l := b₂) (by
      rintro rfl
      rw [List.length_nil] at hlen'
      omega)
    unfold payload
    dsimp only
    rw [Parser.bind_ok (Parser.item_cons _ _ _), Parser.bind_ok hid,
      Parser.bind_ok hdependency, Parser.bind_ok (Parser.item_cons _ _ _)]
    exact ⟨_, rfl⟩
  | settings =>
    have hloop : ∃ r, Parser.loop .incomplete (settingsRound size) (0, {}) b = .ok r :=
      settingsLoop_of_long (by omega)
    obtain ⟨⟨s, rest⟩, hs⟩ := hloop
    exact ⟨_, Parser.bind_ok hs⟩
  | pushPromise => exact ⟨_, Parser.bind_ok (Parser.measure_ok hv)⟩
  | cancelPush => exact hvarint _
  | goaway => exact hvarint _
  | maxPushId => exact hvarint _
  | duplicatePush => exact hvarint _

section Single

variable {t l p : List UInt8} {type : FrameType} {n : UInt64}

/-- The type and the size read, what remains is the payload and its check. -/
theorem single_split (ht : Varint.Encodes t type.value) (hl : Varint.Encodes l n)
    (s : List UInt8) : single (t ++ (l ++ p) ++ s) =
      (Parser.measure (payload type n) >>= checkSize) (p ++ s) := by
  unfold single
  rw [List.append_assoc, List.append_assoc,
    Parser.bind_ok (Varint.parser_stable.append_ok ht.parser _), List.nil_append,
    Parser.bind_ok (Varint.parser_stable.append_ok hl.parser _), List.nil_append]
  unfold body
  rw [ofValue_value]

/-- The size check neither waits nor skips. -/
theorem checkSize_ne (r : (Frame × UInt64) × Nat) (b : List UInt8) :
    checkSize r b ≠ .error .incomplete ∧ ∀ rest, checkSize r b ≠ .ok (none, rest) := by
  unfold checkSize
  split
  · exact ⟨nofun, nofun⟩
  · exact ⟨nofun, nofun⟩

/-- A frame of known type whose payload can be read has a verdict, and is not skipped. -/
theorem single_ne {b : List UInt8} (ht : Varint.Encodes t type.value) (hl : Varint.Encodes l n)
    (s : List UInt8) (hp : payload type n (p ++ s) = .ok r) (hb : b = t ++ (l ++ p) ++ s) :
    single b ≠ .error .incomplete ∧ ∀ rest, single b ≠ .ok (none, rest) := by
  rw [hb, single_split ht hl, Parser.bind_ok (Parser.measure_ok hp)]
  exact checkSize_ne _ _

/-- A frame whose payload cannot be read is short. -/
theorem single_short (ht : Varint.Encodes t type.value) (hl : Varint.Encodes l n)
    (hp : ¬ ∃ r, payload type n p = .ok r) : single (t ++ (l ++ p)) = .error .incomplete := by
  have hsplit := single_split ht hl (p := p) []
  rw [List.append_nil, List.append_nil] at hsplit
  rw [hsplit]
  cases hq : payload type n p with
  | ok r => exact absurd ⟨r, hq⟩ hp
  | error e =>
    rw [Parser.bind_error (Parser.measure_error hq), payload_patient type n p e hq]

end Single

/-- What `decode` does where the first frame is known and its bytes decide. -/
theorem decode_of_single {b : List UInt8} (hne : single b ≠ .error .incomplete)
    (hsome : ∀ rest, single b ≠ .ok (none, rest)) :
    ∃ (r : Except Error Frame) (k : Nat), r ≠ .error .incomplete ∧
      ∀ (s : List UInt8) (x : Buffers), x.bytes = b ++ s → (decode x).1 = r ∧ consumed x = k := by
  have hconsumed {x : Buffers} {r : Except Error Frame} {rest : List UInt8}
      (h : decodeBytes x.bytes = (r, rest)) :
      (decode x).1 = r ∧ consumed x = x.bytes.length - rest.length := by
    have hb := (decode_bytes x).trans h
    exact ⟨congrArg Prod.fst hb, congrArg (x.bytes.length - List.length ·) (congrArg Prod.snd hb)⟩
  match h : single b with
  | .error e =>
    have he : e ≠ .incomplete := by
      rintro rfl
      exact hne h
    refine ⟨.error e, 0, fun heq => he (Except.error.inj heq), fun s x hx => ?_⟩
    have hsingle := single_stable.append_error h he s
    rw [← hx] at hsingle
    obtain ⟨hr, hk⟩ := hconsumed (decodeBytes_error hsingle)
    exact ⟨hr, by rw [hk, Nat.sub_self]⟩
  | .ok (none, rest) => exact absurd h (hsome rest)
  | .ok (some frame, rest) =>
    refine ⟨.ok frame, b.length - rest.length, nofun, fun s x hx => ?_⟩
    have hsingle := single_stable.append_ok h s
    rw [← hx] at hsingle
    obtain ⟨hr, hk⟩ := hconsumed (decodeBytes_some hsingle)
    refine ⟨hr, ?_⟩
    rw [hk, hx, List.length_append, List.length_append]
    omega

/-- **The verdict on a frame is its own exactly where its fields end within the payload.** Elsewhere
the whole frame is answered `incomplete`, and with bytes enough behind it is not. -/
theorem local_iff {t l p : List UInt8} {type : FrameType} {n : UInt64}
    (ht : Varint.Encodes t type.value) (hl : Varint.Encodes l n) (hp : p.length = n.toNat) :
    (Local (t ++ (l ++ p)) ↔ FieldsEnd type p) ∧ (Decided (t ++ (l ++ p)) ↔ FieldsEnd type p) := by
  rw [← payload_ok_iff hp]
  by_cases hread : ∃ r, payload type n p = .ok r
  · obtain ⟨r, hr⟩ := hread
    obtain ⟨hne, hsome⟩ := single_ne ht hl [] (b := t ++ (l ++ p)) (p := p)
      (by rw [List.append_nil]; exact hr) (List.append_nil _).symm
    obtain ⟨v, k, hv, hall⟩ := decode_of_single hne hsome
    refine ⟨iff_of_true ?_ ⟨r, hr⟩, iff_of_true ?_ ⟨r, hr⟩⟩
    · intro s s' x y hx hy
      obtain ⟨hx₁, hx₂⟩ := hall s x hx
      obtain ⟨hy₁, hy₂⟩ := hall s' y hy
      exact ⟨hx₁.trans hy₁.symm, hx₂.trans hy₂.symm⟩
    · intro s x hx
      rw [(hall s x hx).1]
      exact hv
  · have hshort := single_short ht hl hread
    have hincomplete (x : Buffers) (hx : x.bytes = t ++ (l ++ p)) :
        (decode x).1 = .error .incomplete := by
      have hb : _ = decodeBytes x.bytes := decode_bytes x
      rw [hx, decodeBytes_error hshort] at hb
      exact congrArg Prod.fst hb
    refine ⟨iff_of_false ?_ hread, iff_of_false ?_ hread⟩
    · -- any bytes will do, if there are enough of them
      intro hlocal
      have hzeros : (List.replicate (n.toNat + 18) (0 : UInt8)).length = n.toNat + 18 :=
        List.length_replicate
      generalize List.replicate (n.toNat + 18) (0 : UInt8) = zeros at hzeros
      have hlong : ∃ r, payload type n (p ++ zeros) = .ok r :=
        payload_of_long (by rw [List.length_append]; omega)
      obtain ⟨r, hr⟩ := hlong
      obtain ⟨hne, hsome⟩ := single_ne ht hl zeros hr rfl
      obtain ⟨v, k, hv, hall⟩ := decode_of_single hne hsome
      have hx : (⟨[⟨t ++ (l ++ p) ++ zeros⟩]⟩ : Buffers).bytes = t ++ (l ++ p) ++ zeros :=
        List.append_nil _
      have hy : (⟨[⟨t ++ (l ++ p)⟩]⟩ : Buffers).bytes = t ++ (l ++ p) := List.append_nil _
      have hsame := (hlocal zeros [] _ _ hx (hy.trans (List.append_nil _).symm)).1
      rw [hincomplete _ hy, (hall [] _ (hx.trans (List.append_nil _).symm)).1] at hsame
      exact hv hsame
    · intro hdecided
      have hy : (⟨[⟨t ++ (l ++ p)⟩]⟩ : Buffers).bytes = t ++ (l ++ p) := List.append_nil _
      exact hdecided [] _ (hy.trans (List.append_nil _).symm) (hincomplete _ hy)

/-- A CANCEL_PUSH frame with an identifier of one byte: nothing behind it matters. -/
theorem local_iff_cancel_push : Local ([0x03] ++ ([0x01] ++ [0x2a])) :=
  have htype : Varint.Encodes [0x03] FrameType.cancelPush.value := rfl
  have hsize : Varint.Encodes [0x01] 1 := rfl
  (local_iff htype hsize (p := [0x2a]) rfl).1.mpr rfl

/-- A CANCEL_PUSH frame without a payload is incomplete, and malformed once a byte follows. -/
theorem local_not : ¬ (∀ (t l p : List UInt8) (type : FrameType) (n : UInt64),
    Varint.Encodes t type.value → Varint.Encodes l n → p.length = n.toNat →
      Local (t ++ (l ++ p)) ∧ Decided (t ++ (l ++ p))) := by
  intro h
  obtain ⟨hlocal, -⟩ := h [0x03] [0x00] [] .cancelPush 0 (by rfl) (by rfl) rfl
  have hsame := (hlocal [] [0x00] ⟨[⟨[0x03, 0x00]⟩]⟩ ⟨[⟨[0x03, 0x00, 0x00]⟩]⟩ rfl rfl).1
  exact absurd hsame (by decide)

end Frame

end Bnl.Http3
