import Bnl.Library.Entries
import Bnl.Quic.Connection
import Mathlib.Data.Nat.Bitwise

/-!
# The numbers of streams

ngtcp2 numbers the streams that it opens, the bidirectional ones and the unidirectional ones, in the order in
which it opens them. The loop of `send` opens those streams that have something to send; each is given its id
when all lower ids of its kind were given before.

**The law** is `send_ne_iff`: the assertions of a call of `send` hold exactly where the loop comes to its
streams in order. What in order means is said of the entries of the map and of how many streams of each kind are
open (`InOrder`), and which streams the loop comes to depends on what ngtcp2 answers. `send_cases` is what one
stream makes of a call, and the rest is an induction over the entries with what was passed so far (`Passed`).

An id is a number and a kind (`Kind.id`, `index`). The one thing that is asked of ngtcp2 is `Numbers`: it
answers the next number of the kind, or that there is none to be had.

What the loop does after an assertion has failed is not modelled. Then the program has ended.
-/

namespace Bnl.Quic

open Bnl.Base Entries

/-! ## Kinds and numbers -/

/-- The two kinds of streams a client opens. -/
inductive Kind where
  | bidi
  | uni
  deriving DecidableEq, Repr

namespace Kind

/-- The kind of a stream, by the second bit of its id. -/
def of (id : UInt64) : Kind := if id &&& 0x2 = 0 then .bidi else .uni

/-- The first id of a kind. -/
def first : Kind → Nat
  | .bidi => 0
  | .uni => 2

/-- The first client stream of a kind. -/
theorem first_lt (kind : Kind) : kind.first = 0 ∨ kind.first = 2 := by
  cases kind
  · exact .inl rfl
  · exact .inr rfl

/-- The id of the stream of a kind that is opened after `n` others. -/
def id (kind : Kind) (n : Nat) : UInt64 := UInt64.ofNat (4 * n + kind.first)

end Kind

/-- How many streams of its kind are opened before the stream `id`. -/
def index (id : UInt64) : Nat := id.toNat / 4

/-- An id that a client may open a stream under. -/
def Openable (id : UInt64) : Prop := id.toNat % 4 = (Kind.of id).first

/-- A number has 62 bits. -/
theorem index_lt (id : UInt64) : index id < 2 ^ 62 := by
  have h := id.toNat_lt
  unfold index
  omega

/-- An id is that of its kind and number. -/
theorem Openable.id_index {id : UInt64} (h : Openable id) : (Kind.of id).id (index id) = id := by
  apply UInt64.toNat.inj
  unfold Openable at h
  unfold Kind.id index
  rw [UInt64.toNat_ofNat', ← h, Nat.div_add_mod]
  exact Nat.mod_eq_of_lt id.toNat_lt

theorem index_id {kind : Kind} {n : Nat} (h : n < 2 ^ 62) : index (kind.id n) = n := by
  unfold index Kind.id
  rw [UInt64.toNat_ofNat', Nat.mod_eq_of_lt]
  · rcases kind.first_lt with hf | hf <;> omega
  · rcases kind.first_lt with hf | hf <;> omega

/-- The kind, by the remainder. -/
theorem Kind.of_eq (id : UInt64) : Kind.of id = if id.toNat % 4 < 2 then .bidi else .uni := by
  have hbit : id &&& 0x2 = 0 ↔ id.toNat % 4 < 2 := by
    rw [← UInt64.toNat_inj, UInt64.toNat_and]
    show id.toNat &&& 2 ^ 1 = 0 ↔ _
    rw [Nat.and_two_pow, Nat.testBit_eq_decide_div_mod_eq]
    by_cases h : id.toNat / 2 ^ 1 % 2 = 1
    · simp only [h, decide_true, Bool.toNat_true]
      omega
    · simp only [h, decide_false, Bool.toNat_false]
      omega
  unfold Kind.of
  simp only [hbit]

/-- The ids of requests are those of bidirectional streams of the client. -/
theorem openable_bidi {id : UInt64} (h : id.toNat % 4 = 0) : Kind.of id = .bidi ∧ Openable id := by
  have hkind : Kind.of id = .bidi := by rw [Kind.of_eq, if_pos (by rw [h]; decide)]
  exact ⟨hkind, by rw [Openable, hkind, h]; rfl⟩

/-- The kind of an id that was made of one. -/
theorem kind_id (kind : Kind) (n : Nat) : Kind.of (kind.id n) = kind := by
  have hmod : (kind.id n).toNat % 4 = kind.first := by
    unfold Kind.id
    rw [UInt64.toNat_ofNat']
    rcases kind.first_lt with hf | hf <;> omega
  rw [Kind.of_eq, hmod]
  cases kind <;> rfl

/-! ## What ngtcp2 does -/

section Numbers

variable {C : Type}

/-- The function that opens a stream of this kind. -/
def Ngtcp2.openKind (ngtcp2 : Ngtcp2 C) : Kind → C → Answer UInt64 × C
  | .bidi => ngtcp2.openBidiStream
  | .uni => ngtcp2.openUniStream

/-- `open` asks the one for the kind of the id. -/
theorem Ngtcp2.openStream_eq (ngtcp2 : Ngtcp2 C) (c : C) (id : UInt64) :
    ngtcp2.openStream c id = ngtcp2.openKind (Kind.of id) c := by
  unfold openStream Kind.of
  split <;> rfl

/-- How many streams of each kind were opened, and how many the peer allows, is the same in both
states. -/
structure Same (opened limit : Kind → C → Nat) (c c' : C) : Prop where
  opened : ∀ kind, opened kind c' = opened kind c
  limit : ∀ kind, limit kind c' = limit kind c

/-- ngtcp2 numbers the streams it opens in the order of the calls, and says that it is blocked where
the peer allows no more. The other functions open no stream, and what the peer allows changes with
packets that are received only. -/
structure Numbers (transport : Transport C) (opened limit : Kind → C → Nat) : Prop where
  ok : ∀ {kind c id c'}, transport.openKind kind c = (.ok id, c') →
    id = kind.id (opened kind c) ∧ opened kind c < limit kind c ∧
      (∀ k, opened k c' = if k = kind then opened k c + 1 else opened k c) ∧
      ∀ k, limit k c' = limit k c
  blocked : ∀ {kind c c'}, transport.openKind kind c = (.streamIdBlocked, c') →
    limit kind c ≤ opened kind c
  failed : ∀ {kind c answer c'}, transport.openKind kind c = (answer, c') → (∀ id, answer ≠ .ok id) →
    Same opened limit c c'
  writeStream : ∀ c id fin data, Same opened limit c (transport.writeStream c id fin data).2
  writePkt : ∀ c, Same opened limit c (transport.writePkt c).2
  handshakeSend : ∀ c, Same opened limit c (transport.handshakeSend c).2

namespace Same

variable {opened limit : Kind → C → Nat} {c c' c'' : C}

theorem refl (c : C) : Same opened limit c c := ⟨fun _ => rfl, fun _ => rfl⟩

/-- Nothing was opened twice over. -/
theorem trans (h : Same opened limit c c') (h' : Same opened limit c' c'') : Same opened limit c c'' :=
  ⟨fun k => (h'.opened k).trans (h.opened k), fun k => (h'.limit k).trans (h.limit k)⟩

end Same

/-! ## A stream -/

namespace Stream

/-- The stream is not opened, and has something to send. -/
def waiting (s : Stream) : Bool := !s.opened_ && !s.buffers_.empty

/-- What `send` makes of a stream that it does not open. -/
structure Unopened (opened limit : Kind → C → Nat) (c c' : C) (s s' : Stream)
    (r : Except Error Buffer) : Prop where
  same : Same opened limit c c'
  opened_ : s'.opened_ = s.opened_
  blocked : s.waiting = true → r = .error .idle → limit (Kind.of s.id) c ≤ opened (Kind.of s.id) c

/-- What `send` makes of a stream that it opens. -/
structure Opened (opened limit : Kind → C → Nat) (c c' : C) (s s' : Stream) : Prop where
  waiting : s.waiting = true
  opened_ : s'.opened_ = true
  id : s.id = (Kind.of s.id).id (opened (Kind.of s.id) c)
  count : ∀ k, opened k c' = if k = Kind.of s.id then opened k c + 1 else opened k c
  limit : ∀ k, limit k c' = limit k c

variable {transport : Transport C} {opened limit : Kind → C → Nat} {c : C} {s : Stream}

theorem write_same (h : Numbers transport opened limit) (c : C) (s : Stream) :
    let r := s.write transport.toNgtcp2 c
    Same opened limit c r.2.2 ∧ r.2.1.id = s.id ∧ r.2.1.fin_ = s.fin_ ∧ r.2.1.opened_ = s.opened_ := by
  unfold write Ngtcp2.write_stream
  have hsame := h.writeStream c s.id (s.fin_ && s.buffers_.front == s.buffers_.back) s.buffers_.front
  rcases hw : transport.writeStream c s.id (s.fin_ && s.buffers_.front == s.buffers_.back)
    s.buffers_.front with ⟨⟨packet, written⟩ | _ | _ | _, c'⟩
  all_goals
    dsimp only
    rw [hw] at hsame ⊢
    exact ⟨hsame, rfl, rfl, rfl⟩

/-- **What `send` makes of a stream.** The stream is opened under the next number of its kind. -/
theorem send_cases (h : Numbers transport opened limit) {r : Except Error Buffer} {s' : Stream} {c' : C}
    (hs : s.send transport.toNgtcp2 c = some (r, s', c')) :
    s'.id = s.id ∧ s'.fin_ = s.fin_ ∧
      (Unopened opened limit c c' s s' r ∨ Opened opened limit c c' s s') := by
  unfold send at hs
  by_cases hempty : s.buffers_.empty = true
  · rw [if_pos hempty] at hs
    cases hs
    refine ⟨rfl, rfl, .inl ⟨.refl c, rfl, fun hw => ?_⟩⟩
    unfold waiting at hw
    rw [hempty, Bool.not_true, Bool.and_false] at hw
    cases hw
  rw [if_neg hempty] at hs
  by_cases hopened : s.opened_ = true
  · rw [if_pos hopened] at hs
    have hwrite := write_same h c s
    rw [Option.some.inj hs] at hwrite
    obtain ⟨hsame, hid, hfin, ho⟩ := hwrite
    refine ⟨hid, hfin, .inl ⟨hsame, ho, fun hw => ?_⟩⟩
    unfold waiting at hw
    rw [hopened, Bool.not_true, Bool.false_and] at hw
    cases hw
  rw [if_neg hopened] at hs
  have hwaiting : s.waiting = true := by
    unfold waiting
    rw [eq_false_of_ne_true hopened, eq_false_of_ne_true hempty]
    rfl
  unfold Ngtcp2.open_ at hs
  rw [Ngtcp2.openStream_eq] at hs
  rcases ho : transport.openKind (Kind.of s.id) c with ⟨quic_id | _ | _ | _, c₁⟩
  · rw [ho] at hs
    obtain ⟨hid, -, hcount, hlimit⟩ := h.ok ho
    dsimp only at hs
    by_cases heq : quic_id = s.id
    · rw [if_pos heq] at hs
      have hwrite := write_same h c₁ { s with opened_ := true }
      rw [Option.some.inj hs] at hwrite
      obtain ⟨hsame, hid', hfin, ho'⟩ := hwrite
      refine ⟨hid', hfin, .inr ⟨hwaiting, ho', heq ▸ hid, fun k => ?_, fun k => ?_⟩⟩
      · exact (hsame.opened k).trans (hcount k)
      · exact (hsame.limit k).trans (hlimit k)
    · rw [if_neg heq] at hs
      cases hs
  · rw [ho] at hs
    cases hs
    exact ⟨rfl, rfl, .inl ⟨h.failed ho nofun, rfl, fun _ _ => h.blocked ho⟩⟩
  all_goals
    rw [ho] at hs
    cases hs
    exact ⟨rfl, rfl, .inl ⟨h.failed ho nofun, rfl, nofun⟩⟩

/-- **A stream fails its assertion** where it is opened under another id. -/
theorem send_none_iff : s.send transport.toNgtcp2 c = none ↔ s.waiting = true ∧
    ∃ id c', transport.openKind (Kind.of s.id) c = (.ok id, c') ∧ id ≠ s.id := by
  unfold send waiting
  rcases s.buffers_.empty with _ | _
  · rcases s.opened_ with _ | _
    · unfold Ngtcp2.open_
      rw [Ngtcp2.openStream_eq]
      rcases ho : transport.openKind (Kind.of s.id) c with ⟨quic_id | _ | _ | _, c₁⟩
      · by_cases heq : quic_id = s.id
        · simp [heq]
        · simp [heq]
      all_goals simp
    · simp
  · simp

end Stream

/-! ## The loop over the streams -/

/-- ngtcp2 opens a stream when it is asked for one in this state. -/
def Ngtcp2.opens (ngtcp2 : Ngtcp2 C) (c : C) (id : UInt64) : Bool :=
  match (ngtcp2.openStream c id).1 with
  | .ok _ => true
  | _ => false

namespace Connection

/-- The streams that the loop of `send` comes to, with the state ngtcp2 is in then. -/
def reached (transport : Transport C) : List (UInt64 × Stream) → C → List (UInt64 × Stream × C)
  | [], _ => []
  | (id, s) :: entries, c =>
    (id, s, c) :: match s.send transport.toNgtcp2 c with
      | some (.error .idle, _, c) => reached transport entries c
      | _ => []

/-- A stream that is opened when the loop comes to it has each lower number of its kind given before,
or waiting in front of it. -/
def InOrder (transport : Transport C) (opened : Kind → Nat) (all : List (UInt64 × Stream))
    (e : UInt64 × Stream × C) : Prop :=
  e.2.1.waiting = true → transport.opens e.2.2 e.1 = true → ∀ n < index e.1, n < opened (Kind.of e.1) ∨
    ∃ e' ∈ all, e'.1 = (Kind.of e.1).id n ∧ e'.2.waiting = true

instance (transport : Transport C) (opened : Kind → Nat) (all : List (UInt64 × Stream))
    (e : UInt64 × Stream × C) : Decidable (InOrder transport opened all e) := by
  unfold InOrder
  infer_instance

/-- Each stream lies under its id, and is opened once so many of its kind are. -/
structure Numbered (opened : Kind → C → Nat) (q : Connection) (c : C) : Prop where
  id : ∀ {k : UInt64} {s : Stream}, q.streams_[k]? = some s → s.id = k
  openable : ∀ {k : UInt64} {s : Stream}, q.streams_[k]? = some s → Openable k
  opened : ∀ {k : UInt64} {s : Stream}, q.streams_[k]? = some s → (s.opened_ = true ↔ index k < opened (Kind.of k) c)

/-- Where the loop stands behind some streams. -/
structure Passed (opened : Kind → C → Nat) (q₀ : Connection) (c₀ : C)
    (before : List (UInt64 × Stream)) (q : Connection) (c : C) : Prop where
  numbered : Numbered opened q c
  grown : ∀ kind, opened kind c₀ ≤ opened kind c
  counted : ∀ {kind : Kind} {n : Nat}, n < opened kind c → n < opened kind c₀ ∨
    ∃ e ∈ before, e.1 = kind.id n ∧ e.2.waiting = true
  fin_ : ∀ k : UInt64, q.streams_[k]?.map Stream.fin_ = q₀.streams_[k]?.map Stream.fin_

/-- Each stream that waited was opened, or the peer allows no more. -/
def Tried (opened limit : Kind → C → Nat) (before : List (UInt64 × Stream)) (c : C) : Prop :=
  ∀ e ∈ before, e.2.waiting = true → index e.1 < opened (Kind.of e.1) c ∨
    limit (Kind.of e.1) c ≤ opened (Kind.of e.1) c

variable {transport : Transport C} {opened limit : Kind → C → Nat} {q₀ q : Connection} {c₀ c c' : C}
  {before : List (UInt64 × Stream)} {k : UInt64} {s s' : Stream} {r : Except Error Buffer}

/-- The streams that are opened do not change with the states that `Same` relates. -/
theorem Numbered.same (h : Numbered opened q c) (hsame : Same opened limit c c') :
    Numbered opened q c' := by
  refine ⟨h.id, h.openable, fun hs => ?_⟩
  rw [hsame.opened]
  exact h.opened hs

/-- A stream whose number says whether it is open. -/
theorem Numbered.insert (h : Numbered opened q c) (hid : s'.id = k) (hk : Openable k)
    (hother : ∀ {j : UInt64} {t : Stream}, j ≠ k → q.streams_[j]? = some t →
      (t.opened_ = true ↔ index j < opened (Kind.of j) c'))
    (hown : s'.opened_ = true ↔ index k < opened (Kind.of k) c') :
    Numbered opened ⟨q.streams_.insert k s'⟩ c' := by
  have hcases {j : UInt64} {t : Stream} (hj : (q.streams_.insert k s')[j]? = some t) :
      j = k ∧ t = s' ∨ j ≠ k ∧ q.streams_[j]? = some t := by
    by_cases hjk : j = k
    · subst hjk
      exact .inl ⟨rfl, Option.some.inj (hj.symm.trans (getElem_insert_self s'))⟩
    · exact .inr ⟨hjk, (getElem_insert_ne hjk s').symm.trans hj⟩
  refine ⟨fun hj => ?_, fun hj => ?_, fun hj => ?_⟩
  · rcases hcases hj with ⟨rfl, rfl⟩ | ⟨-, hj⟩
    · exact hid
    · exact h.id hj
  · rcases hcases hj with ⟨rfl, rfl⟩ | ⟨-, hj⟩
    · exact hk
    · exact h.openable hj
  · rcases hcases hj with ⟨rfl, rfl⟩ | ⟨hne, hj⟩
    · exact hown
    · exact hother hne hj

/-- **The loop passes a stream.** -/
theorem Passed.next (h : Passed opened q₀ c₀ before q c) (hn : Numbers transport opened limit)
    (hs : q.streams_[k]? = some s) (hsend : s.send transport.toNgtcp2 c = some (r, s', c')) :
    Passed opened q₀ c₀ (before ++ [(k, s)]) ⟨q.streams_.insert k s'⟩ c' := by
  obtain ⟨hid, hfin, hcases⟩ := Stream.send_cases hn hsend
  have hk := h.numbered.id hs
  have hfins (j : UInt64) :
      (q.streams_.insert k s')[j]?.map Stream.fin_ = q₀.streams_[j]?.map Stream.fin_ := by
    rw [← h.fin_ j]
    by_cases hj : j = k
    · rw [hj, getElem_insert_self, hs, Option.map_some, Option.map_some, hfin]
    · rw [getElem_insert_ne hj]
  rcases hcases with hkept | hopened
  · -- nothing was opened
    have hopen (kind : Kind) : opened kind c' = opened kind c := hkept.same.opened kind
    refine ⟨?_, fun kind => ?_, fun {kind n} hlt => ?_, hfins⟩
    · refine h.numbered.insert (hid.trans hk) (h.numbered.openable hs) (fun _ hj => ?_) ?_
      · rw [hopen]
        exact h.numbered.opened hj
      · rw [hkept.opened_, hopen]
        exact h.numbered.opened hs
    · rw [hopen]
      exact h.grown kind
    · rw [hopen] at hlt
      exact (h.counted hlt).imp_right fun ⟨e, he, hw⟩ => ⟨e, List.mem_append_left _ he, hw⟩
  · -- the stream was opened, under the next number of its kind
    obtain ⟨hwaiting, hopened_, hnumber, hcount, -⟩ := hopened
    rw [hk] at hnumber hcount
    have hindex : opened (Kind.of k) c ≤ index k := by
      refine Nat.le_of_not_lt fun hlt => ?_
      have := (h.numbered.opened hs).mpr hlt
      unfold Stream.waiting at hwaiting
      rw [this] at hwaiting
      cases hwaiting
    have heq : opened (Kind.of k) c = index k := by
      have hinj : index ((Kind.of k).id (opened (Kind.of k) c)) = _ :=
        index_id (Nat.lt_of_le_of_lt hindex (index_lt k))
      rw [← hnumber] at hinj
      exact hinj.symm
    refine ⟨?_, fun kind => ?_, fun {kind n} hlt => ?_, hfins⟩
    · refine h.numbered.insert (hid.trans hk) (h.numbered.openable hs) (fun {j t} hne hj => ?_) ?_
      · rw [hcount]
        split
        · next hkind =>
          rw [h.numbered.opened hj, hkind]
          refine ⟨Nat.lt_succ_of_lt, fun hlt => ?_⟩
          refine Nat.lt_of_le_of_ne (Nat.le_of_lt_succ hlt) fun hsame => hne ?_
          rw [← (h.numbered.openable hj).id_index, ← (h.numbered.openable hs).id_index, hkind,
            hsame, heq]
        · exact h.numbered.opened hj
      · rw [hcount, if_pos rfl, heq]
        exact ⟨fun _ => Nat.lt_succ_self _, fun _ => hopened_⟩
    · rw [hcount]
      split
      · exact Nat.le_succ_of_le (h.grown kind)
      · exact h.grown kind
    · rw [hcount] at hlt
      split at hlt
      · next hkind =>
        subst hkind
        rcases Nat.lt_succ_iff_lt_or_eq.mp hlt with hlt | rfl
        · exact (h.counted hlt).imp_right fun ⟨e, he, hw⟩ => ⟨e, List.mem_append_left _ he, hw⟩
        · exact .inr ⟨(k, s), List.mem_append_right _ (List.mem_singleton_self _), hnumber, hwaiting⟩
      · exact (h.counted hlt).imp_right fun ⟨e, he, hw⟩ => ⟨e, List.mem_append_left _ he, hw⟩

/-- A stream the loop passes was tried, when it had nothing to say. -/
theorem Tried.next (h : Tried opened limit before c) (hn : Numbers transport opened limit)
    (hp : Passed opened q₀ c₀ before q c) (hs : q.streams_[k]? = some s)
    (hsend : s.send transport.toNgtcp2 c = some (.error .idle, s', c')) :
    Tried opened limit (before ++ [(k, s)]) c' := by
  obtain ⟨-, -, hcases⟩ := Stream.send_cases hn hsend
  have hk := hp.numbered.id hs
  have hlater : (∀ kind, opened kind c ≤ opened kind c') ∧ ∀ kind, limit kind c' = limit kind c := by
    rcases hcases with hkept | hopened
    · exact ⟨fun kind => Nat.le_of_eq (hkept.same.opened kind).symm, hkept.same.limit⟩
    · refine ⟨fun kind => ?_, hopened.limit⟩
      rw [hopened.count]
      split
      · exact Nat.le_succ _
      · exact Nat.le_refl _
  intro e he hwaiting
  rcases List.mem_append.mp he with he | he
  · rcases h e he hwaiting with hlt | hlimit
    · exact .inl (Nat.lt_of_lt_of_le hlt (hlater.1 _))
    · exact .inr (by rw [hlater.2]; exact Nat.le_trans hlimit (hlater.1 _))
  · obtain rfl := List.mem_singleton.mp he
    rcases hcases with hkept | hopened
    · refine .inr ?_
      rw [hkept.same.opened, hkept.same.limit, ← hk]
      exact hkept.blocked hwaiting rfl
    · have hnext := (hp.next hn hs hsend).numbered
      exact .inl ((hnext.opened (getElem_insert_self s')).mp hopened.opened_)

/-- **A stream that the loop comes to is opened under its id** exactly where it is in order. -/
theorem inOrder_iff (hn : Numbers transport opened limit) {entries : List (UInt64 × Stream)}
    (hsorted : (before ++ (k, s) :: entries).Pairwise fun e e' => e.1 < e'.1)
    (hp : Passed opened q₀ c₀ before q c) (ht : Tried opened limit before c)
    (hs : q.streams_[k]? = some s) :
    InOrder transport (opened · c₀) (before ++ (k, s) :: entries) (k, s, c) ↔
      s.send transport.toNgtcp2 c ≠ none := by
  have hk := hp.numbered.id hs
  rw [Ne, Stream.send_none_iff, hk]
  by_cases hwaiting : s.waiting = true
  case neg => exact ⟨fun _ h => hwaiting h.1, fun _ h => absurd h hwaiting⟩
  rcases ho : transport.openKind (Kind.of k) c with ⟨answer, c₁⟩
  have hopens : transport.opens c k = true ↔ ∃ id, answer = .ok id := by
    unfold Ngtcp2.opens
    rw [Ngtcp2.openStream_eq, ho]
    cases answer <;> simp
  by_cases hok : ∃ id, answer = .ok id
  case neg =>
    refine ⟨fun _ ⟨_, id, c', h, _⟩ => hok ⟨id, (Prod.mk.inj h).1⟩, fun _ _ h => ?_⟩
    exact absurd (hopens.mp h) hok
  obtain ⟨id, rfl⟩ := hok
  obtain ⟨hid, hroom, -, -⟩ := hn.ok ho
  have hopenable := hp.numbered.openable hs
  -- the stream is not opened yet
  have hle : opened (Kind.of k) c ≤ index k := by
    refine Nat.le_of_not_lt fun hlt => ?_
    unfold Stream.waiting at hwaiting
    rw [(hp.numbered.opened hs).mpr hlt] at hwaiting
    cases hwaiting
  have hindex (n : Nat) (h : n ≤ index k) : index ((Kind.of k).id n) = n :=
    index_id (Nat.lt_of_le_of_lt h (index_lt k))
  have hright : ¬ (s.waiting = true ∧ ∃ id' c', (Answer.ok id, c₁) = (Answer.ok id', c') ∧ id' ≠ k) ↔
      opened (Kind.of k) c = index k := by
    constructor
    · intro h
      have heq : id = k := by
        by_contra hne
        exact h ⟨hwaiting, id, c₁, rfl, hne⟩
      have := hindex _ hle
      rw [← hid, heq] at this
      exact this.symm
    · rintro heq ⟨-, id', c', h, hne⟩
      cases h
      rw [heq, hopenable.id_index] at hid
      exact hne hid
  rw [hright]
  constructor
  · -- each lower number is given by now: those that wait in front were tried, and there was room
    intro horder
    refine Nat.le_antisymm hle (Nat.le_of_not_lt fun hlt => ?_)
    rcases horder hwaiting (hopens.mpr ⟨id, rfl⟩) _ hlt with hbefore | ⟨e, he, hnumber, hw⟩
    · exact Nat.lt_irrefl _ (Nat.lt_of_lt_of_le hbefore (hp.grown _))
    · have hie : index e.1 = opened (Kind.of k) c := by rw [hnumber, hindex _ hle]
      have hkind : Kind.of e.1 = Kind.of k := by rw [hnumber, kind_id]
      have hfront : e ∈ before := by
        rcases List.mem_append.mp he with he | he
        · exact he
        · have hbehind := (List.pairwise_append.mp hsorted).2.1
          have hlate : index k ≤ index e.1 := by
            rcases List.mem_cons.mp he with rfl | he
            · exact Nat.le_refl _
            · exact Nat.div_le_div_right
                (Nat.le_of_lt (UInt64.lt_iff_toNat_lt.mp ((List.pairwise_cons.mp hbehind).1 e he)))
          exact absurd (hie ▸ hlate) (Nat.not_le.mpr hlt)
      rcases ht e hfront hw with hgiven | hblocked
      · rw [hie, hkind] at hgiven
        exact Nat.lt_irrefl _ hgiven
      · rw [hkind] at hblocked
        exact Nat.not_lt.mpr hblocked hroom
  · intro heq _ _ n hlt
    rcases hp.counted (heq ▸ hlt : n < opened (Kind.of k) c) with hbefore | ⟨e, he, hnumber, hw⟩
    · exact .inl hbefore
    · exact .inr ⟨e, List.mem_append_left _ he, hnumber, hw⟩

/-- **The assertions of a loop hold exactly where it comes to its streams in order.** -/
theorem sendStreams_ne_iff (hn : Numbers transport opened limit) {all entries : List (UInt64 × Stream)}
    (hall : all = before ++ entries) (hsorted : all.Pairwise fun e e' => e.1 < e'.1)
    (hp : Passed opened q₀ c₀ before q c) (ht : Tried opened limit before c)
    (hentries : ∀ e ∈ entries, q.streams_[e.1]? = some e.2) :
    sendStreams transport entries q c ≠ none ↔
      ∀ e ∈ reached transport entries c, InOrder transport (opened · c₀) all e := by
  induction entries generalizing before q c with
  | nil => exact ⟨fun _ => nofun, fun _ => nofun⟩
  | cons e entries ih =>
    obtain ⟨k, s⟩ := e
    have hs : q.streams_[k]? = some s := hentries _ List.mem_cons_self
    have hhead := inOrder_iff hn (hall ▸ hsorted) hp ht hs
    rw [← hall] at hhead
    unfold sendStreams reached
    rw [List.forall_mem_cons, hhead]
    rcases hsend : s.send transport.toNgtcp2 c with _ | ⟨r, s', c'⟩
    · exact ⟨fun h => absurd rfl h, fun h => absurd rfl h.1⟩
    · dsimp only
      by_cases hidle : r = .error .idle
      · subst hidle
        rw [if_pos rfl]
        have hrest := ih (show all = (before ++ [(k, s)]) ++ entries by rw [hall, List.append_assoc]; rfl)
          (hp.next hn hs hsend) (ht.next hn hp hs hsend) fun e he => by
            have hne : e.1 ≠ k := by
              have hbehind := (List.pairwise_append.mp (hall ▸ hsorted)).2.1
              exact (UInt64.ne_of_lt ((List.pairwise_cons.mp hbehind).1 e he)).symm
            exact (getElem_insert_ne hne s').trans (hentries e (List.mem_cons_of_mem _ he))
        rw [hrest]
        exact ⟨fun h => ⟨nofun, h⟩, fun h => h.2⟩
      · rw [if_neg hidle]
        refine ⟨fun _ => ⟨nofun, fun e he => ?_⟩, fun _ => nofun⟩
        split at he
        · next heq =>
          cases heq
          exact absurd rfl hidle
        · cases he

/-- What the loop leaves. -/
theorem sendStreams_passed (hn : Numbers transport opened limit) {entries : List (UInt64 × Stream)}
    (hp : Passed opened q₀ c₀ before q c) {q' : Connection} {c' : C}
    (hsorted : entries.Pairwise fun e e' => e.1 < e'.1)
    (hentries : ∀ e ∈ entries, q.streams_[e.1]? = some e.2)
    (h : sendStreams transport entries q c = some (r, q', c')) :
    ∃ before', (∀ e ∈ before', e ∈ before ++ entries) ∧ Passed opened q₀ c₀ before' q' c' := by
  induction entries generalizing before q c with
  | nil =>
    cases h
    exact ⟨before, fun e he => List.mem_append_left _ he, hp⟩
  | cons e entries ih =>
    obtain ⟨k, s⟩ := e
    have hs : q.streams_[k]? = some s := hentries _ List.mem_cons_self
    unfold sendStreams at h
    rcases hsend : s.send transport.toNgtcp2 c with _ | ⟨r', s', c''⟩
    · rw [hsend] at h
      cases h
    · rw [hsend] at h
      dsimp only at h
      have hnext := hp.next hn hs hsend
      split at h
      · obtain ⟨hfirst, hrest⟩ := List.pairwise_cons.mp hsorted
        rw [show before ++ (k, s) :: entries = before ++ [(k, s)] ++ entries by simp]
        refine ih hnext hrest (fun e he => ?_) h
        exact (getElem_insert_ne (UInt64.ne_of_lt (hfirst e he)).symm s').trans
          (hentries e (List.mem_cons_of_mem _ he))
      · cases h
        refine ⟨_, fun e he => ?_, hnext⟩
        exact (List.mem_append.mp he).elim (List.mem_append_left _) fun he =>
          List.mem_append_right _ (List.mem_singleton.mp he ▸ List.mem_cons_self)

/-! ## A call of `send` -/

/-- The streams that `send` comes to. -/
def comes (transport : Transport C) (q : Connection) (c : C) : List (UInt64 × Stream × C) :=
  match transport.handshakeSend c with
  | (.error _, _) => []
  | (.ok (), c) =>
    match transport.write_pkt c with
    | (.ok _, _) => []
    | (.error error, c) =>
      if error ≠ .idle then []
      else if !transport.handshakeCompleted c then []
      else reached transport q.streams_.toList c

/-- What `send` leaves of the streams. -/
structure Progress (opened : Kind → C → Nat) (q : Connection) (c : C) (q' : Connection) (c' : C) :
    Prop where
  numbered : Numbered opened q' c'
  grown : ∀ kind, opened kind c ≤ opened kind c'
  counted : ∀ {kind : Kind} {n : Nat}, n < opened kind c' → n < opened kind c ∨
    q.streams_[kind.id n]? ≠ none
  fin_ : ∀ k : UInt64, q'.streams_[k]?.map Stream.fin_ = q.streams_[k]?.map Stream.fin_

/-- A packet of ngtcp2's own opens nothing. -/
theorem write_pkt_same (hn : Numbers transport opened limit) (c : C) :
    Same opened limit c (transport.write_pkt c).2 := by
  have hsame := hn.writePkt c
  unfold Ngtcp2.write_pkt
  rcases hw : transport.writePkt c with ⟨packet | _ | _ | _, c'⟩
  all_goals
    rw [hw] at hsame
    dsimp only
  · split <;> exact hsame
  all_goals exact hsame

/-- Where `send` comes to its streams, if it does. -/
theorem send_cases (hn : Numbers transport opened limit) (q : Connection) (c : C) :
    ∃ c₁, Same opened limit c c₁ ∧
      ((∃ r, q.send transport c = some (r, q, c₁) ∧ comes transport q c = []) ∨
        q.send transport c = sendStreams transport q.streams_.toList q c₁ ∧
          comes transport q c = reached transport q.streams_.toList c₁) := by
  unfold send comes
  have hhandshake := hn.handshakeSend c
  rcases hh : transport.handshakeSend c with ⟨error | ⟨⟩, c₁⟩
  · rw [hh] at hhandshake
    exact ⟨c₁, hhandshake, .inl ⟨_, rfl, rfl⟩⟩
  · rw [hh] at hhandshake
    have hpkt := hhandshake.trans (write_pkt_same hn c₁)
    dsimp only
    rcases hw : transport.write_pkt c₁ with ⟨error | packet, c₂⟩
    all_goals rw [hw] at hpkt
    · refine ⟨c₂, hpkt, ?_⟩
      dsimp only
      split
      · exact .inl ⟨_, rfl, rfl⟩
      · split
        · exact .inl ⟨_, rfl, rfl⟩
        · exact .inr ⟨rfl, rfl⟩
    · exact ⟨c₂, hpkt, .inl ⟨_, rfl, rfl⟩⟩

/-- In front of the loop nothing was passed. -/
theorem passed_start (h : Numbered opened q c) : Passed opened q c [] q c :=
  ⟨h, fun _ => Nat.le_refl _, fun hlt => .inl hlt, fun _ => rfl⟩

/-- **The assertions of `send` hold exactly where it comes to its streams in order.** -/
theorem send_ne_iff (hn : Numbers transport opened limit) (h : Numbered opened q c) :
    q.send transport c ≠ none ↔
      ∀ e ∈ comes transport q c, InOrder transport (opened · c) q.streams_.toList e := by
  obtain ⟨c₁, hsame, ⟨r, hsend, hcomes⟩ | ⟨hsend, hcomes⟩⟩ := send_cases hn q c
  · rw [hsend, hcomes]
    exact ⟨fun _ => nofun, fun _ => nofun⟩
  · have hopened : (fun kind => opened kind c₁) = fun kind => opened kind c := funext hsame.opened
    rw [hsend, hcomes, ← hopened]
    exact sendStreams_ne_iff hn (List.nil_append _).symm (pairwise_toList q.streams_)
      (passed_start (h.same hsame)) nofun fun e he => mem_toList.mp he

/-- A call that comes back has opened streams in order. -/
theorem send_progress (hn : Numbers transport opened limit) (h : Numbered opened q c)
    {q' : Connection} {c' : C} (hsend : q.send transport c = some (r, q', c')) :
    Progress opened q c q' c' := by
  obtain ⟨c₁, hsame, ⟨r', hs, -⟩ | ⟨hs, -⟩⟩ := send_cases hn q c
  · cases hsend.symm.trans hs
    refine ⟨h.same hsame, fun kind => Nat.le_of_eq (hsame.opened kind).symm, fun {kind n} hlt => ?_,
      fun _ => rfl⟩
    exact .inl (hsame.opened kind ▸ hlt)
  · have hentries : ∀ e ∈ q.streams_.toList, q.streams_[e.1]? = some e.2 :=
      fun e he => mem_toList.mp he
    obtain ⟨before, hbefore, hpassed⟩ := sendStreams_passed hn (passed_start (h.same hsame))
      (pairwise_toList q.streams_) hentries (hs.symm.trans hsend)
    refine ⟨hpassed.numbered, fun kind => ?_, fun {kind n} hlt => ?_, hpassed.fin_⟩
    · exact Nat.le_trans (Nat.le_of_eq (hsame.opened kind).symm) (hpassed.grown kind)
    · rcases hpassed.counted hlt with hlt | ⟨e, he, hnumber, -⟩
      · exact .inl (hsame.opened kind ▸ hlt)
      · exact .inr (by rw [← hnumber, hentries e (hbefore e he)]; nofun)

end Connection

end Numbers

end Bnl.Quic
