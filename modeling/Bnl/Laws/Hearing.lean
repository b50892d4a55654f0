import Bnl.Laws.Delivery

/-!
# What is heard of a message

A receiver that has the beginning of a message hands out what is there of it, in order: headers, parts of the
body, and the end once it has come. `Follows` is the place in the message a receiver has come to, with the
events it has handed out on the way. Every call keeps it, whether the call has an answer or fails, and so does
every event that brings more of the message; what an application has heard can be read off it.

**The laws**: `Follows.process` for a call, `Follows.fed` for an event, `Follows.fails` for a call that fails.
What they come to for the application is `Follows.hears`.

The idea of the proof: at every place the message is what the receiver keeps, and `x`, which is still to come. A
call works on what is kept alone, so it is compared with the same call on the whole message. Body and header
block have places of their own (`Left`), and each of their calls takes a part off the front or is short and
takes nothing.

**What it does not establish.** That the receiver is asked until it has no answer: `Delivery` has that for a
message that comes whole. Messages with a second header block are not followed; the receiver takes its beginning
as the end of the body.
-/

namespace Bnl.Http3

open Incremental Bnl.Base

/-! ## The body -/

namespace Body.Decoder

/-- What is left of a body where the message goes on here. -/
def Left (d : Decoder) (w body : List UInt8) : Prop :=
  match d.state with
  | .frame => ∃ payloads, Frame.DataFrames payloads w ∧ payloads.flatten = body
  | .data => ∃ payload payloads rest, w = payload ++ rest ∧ payload.length = d.remaining.toNat ∧
      Frame.DataFrames payloads rest ∧ payload ++ payloads.flatten = body

/-- A call is short and leaves the body as it was, or takes a part off it; the part that uses the message up
leaves no frame in progress. -/
def Yields (d : Decoder) (w body : List UInt8) : Except Error Buffer → Prop
  | .error e => e = .incomplete ∧ d.Left w body
  | .ok part => ∃ left, part.bytes ++ left = body ∧ d.Left w left ∧ (w = [] → d.inProgress = false)

variable {d d' : Decoder} {b x rest body : List UInt8} {r : Except Error Buffer}

/-- Where there are no bytes there are no frames. -/
theorem dataFrames_nil {payloads : List (List UInt8)} (h : Frame.DataFrames payloads []) : payloads = [] := by
  cases payloads with
  | nil => rfl
  | cons payload payloads => exact absurd rfl (Endpoint.Request.ByteReceiver.dataFrames_ne_nil h)

/-- Where nothing is left of the message, nothing is left of the body. -/
theorem Left.body_nil (h : d.Left [] body) : body = [] := by
  unfold Left at h
  split at h
  · obtain ⟨payloads, hframes, rfl⟩ := h
    rw [dataFrames_nil hframes]
    rfl
  · obtain ⟨payload, payloads, rest, hb, -, hframes, rfl⟩ := h
    obtain ⟨rfl, rfl⟩ := List.append_eq_nil_iff.mp hb.symm
    rw [dataFrames_nil hframes]
    rfl

/-- A call within a payload takes a part off the body, or is short. -/
theorem decodeDataBytes_left (hd : d.state = .data) (h : d.Left (b ++ x) body)
    (hr : d.decodeDataBytes b = (r, d', rest)) : d'.Yields (rest ++ x) body r := by
  unfold decodeDataBytes at hr
  split at hr
  · cases hr
    exact ⟨rfl, h⟩
  · cases hr
    unfold Left at h
    rw [hd] at h
    obtain ⟨payload, payloads, rest, hw, hlen, hrest, rfl⟩ := h
    have hle := d.bodyPartSize_le b
    have htake : b.take (d.bodyPartSize b) = payload.take (d.bodyPartSize b) := by
      rw [← List.take_append_of_le_length hle.1, hw, List.take_append_of_le_length (hlen ▸ hle.2)]
    have hdrop : b.drop (d.bodyPartSize b) ++ x = payload.drop (d.bodyPartSize b) ++ rest := by
      rw [← List.drop_append_of_le_length hle.1, hw, List.drop_append_of_le_length (hlen ▸ hle.2)]
    have hstate := d.advance_state hle.2
    refine ⟨payload.drop (d.bodyPartSize b) ++ payloads.flatten, ?_, ?_, fun hnil => ?_⟩
    · rw [htake, ← List.append_assoc, List.take_append_drop]
    · unfold Left
      rw [hdrop, hstate]
      by_cases hn : d.remaining.toNat = d.bodyPartSize b
      · have hused : payload.drop (d.bodyPartSize b) = [] :=
          List.drop_of_length_le (Nat.le_of_eq (hlen.trans hn))
        rw [if_pos hn, hused]
        exact ⟨payloads, hrest, rfl⟩
      · rw [if_neg hn, hd]
        refine ⟨_, payloads, rest, rfl, ?_, hrest, rfl⟩
        rw [List.length_drop, hlen, advance_remaining _ hle.2]
    · -- the payload is used up, so the frame is behind the decoder
      rw [hdrop] at hnil
      have hused := List.drop_eq_nil_iff.mp (List.append_eq_nil_iff.mp hnil).1
      have hn : d.remaining.toNat = d.bodyPartSize b := Nat.le_antisymm (hlen ▸ hused) hle.2
      unfold inProgress
      rw [hstate, if_pos hn]
      rfl

/-- **A call takes a part off the body, or is short.** -/
theorem decodeBytes_left (h : d.Left (b ++ x) body) (hr : d.decodeBytes b = (r, d', rest)) :
    d'.Yields (rest ++ x) body r := by
  cases hd : d.state with
  | data =>
    rw [decodeBytes_data hd] at hr
    exact decodeDataBytes_left hd h hr
  | frame =>
    have hleft := h
    unfold Left at h
    rw [hd] at h
    obtain ⟨payloads, hframes, rfl⟩ := h
    generalize hw : b ++ x = wire at hframes
    cases hframes with
    | nil =>
      obtain ⟨rfl, rfl⟩ := List.append_eq_nil_iff.mp hw
      rw [decodeBytes_nil hd] at hr
      cases hr
      exact ⟨rfl, hleft⟩
    | @cons size _ _ _ _ hpre hlen hrest =>
      rcases beginning_cases hw with ⟨r, rfl⟩ | ⟨s, hs, rfl⟩
      · rw [List.append_assoc] at hw
        rw [decodeBytes_preamble hd hpre] at hr
        exact decodeDataBytes_left (d := { state := .data, remaining := size }) rfl
          ⟨_, _, _, List.append_cancel_left hw, hlen, hrest, rfl⟩ hr
      · rw [decodeBytes_short hd hpre rfl hs] at hr
        cases hr
        exact ⟨rfl, hleft⟩

/-- A call that has the rest of the message and is short leaves nothing of the body behind. -/
theorem decodeBytes_whole {e : Error} (h : d.Left b body) (hr : d.decodeBytes b = (.error e, d', rest)) :
    body = [] := by
  have hdata {d : Decoder} {b : List UInt8} (hr : d.decodeDataBytes b = (.error e, d', rest)) : b = [] := by
    unfold decodeDataBytes at hr
    split at hr
    · next hb => exact hb
    · cases hr
  have hleft := h
  unfold Left at h
  cases hd : d.state with
  | data =>
    rw [decodeBytes_data hd] at hr
    rw [hdata hr] at hleft
    exact hleft.body_nil
  | frame =>
    rw [hd] at h
    obtain ⟨payloads, hframes, rfl⟩ := h
    cases hframes with
    | nil => rfl
    | cons hpre hlen hrest =>
      rw [decodeBytes_preamble hd hpre] at hr
      obtain ⟨rfl, rfl⟩ := List.append_eq_nil_iff.mp (hdata hr)
      rw [dataFrames_nil hrest]
      rfl

end Body.Decoder

/-! ## The header block -/

namespace Headers.Decoder

/-- The headers that are left in the block where the message goes on here, and the body behind them. -/
def Left (d : Decoder) (w : List UInt8) (headers : List Header) (body : List UInt8) : Prop :=
  ∃ block payloads rest, w = block ++ rest ∧ Frame.DataFrames payloads rest ∧ payloads.flatten = body ∧
    d.state = .qpack ∧ d.qpack.count + block.length = d.headersSize.toNat ∧ headers ≠ [] ∧
      d.qpack.Reads block headers

/-- A call is short and leaves the headers as they were, or takes the first one off; the last one ends the
block. -/
def Yields (d : Decoder) (w : List UInt8) (headers : List Header) (body : List UInt8) :
    Except Error Header → Prop
  | .error e => e = .incomplete ∧ d.Left w headers body
  | .ok header => ∃ left, headers = header :: left ∧
      ((left = [] ∧ d.finished = true ∧ ({} : Body.Decoder).Left w body) ∨
        d.finished = false ∧ d.Left w left body)

variable {d d' : Decoder} {b x rest body : List UInt8} {headers : List Header} {r : Except Error Header}

/-- **A call takes a header off the block, or is short.** -/
theorem decodeQpackBytes_left (h : d.Left (b ++ x) headers body)
    (hr : d.decodeQpackBytes b = (r, d', rest)) : d'.Yields (rest ++ x) headers body r := by
  obtain ⟨block, payloads, after, hw, hframes, hbody, hd, hsize, hne, hreads⟩ := h
  cases headers with
  | nil => exact absurd rfl hne
  | cons header headers =>
    obtain ⟨q, left, hq, hleft⟩ := hreads
    have hresumes := d.qpack.decodeBytes_resumes
    obtain ⟨used, hused, hcount⟩ := Qpack.Decoder.decodeBytes_count hq
    -- what a call makes of more than the line it is to read
    have hlong {c : List UInt8} (hc : d.qpack.decodeBytes b = (.ok header, q, c))
        (hafter : c ++ x = left ++ after) : d'.Yields (rest ++ x) (header :: headers) body r := by
      have hlen : q.count + left.length = d.headersSize.toNat := by
        rw [← hsize, hcount, hused, List.length_append, Nat.add_assoc]
      unfold decodeQpackBytes at hr
      rw [hc] at hr
      dsimp only at hr
      rw [if_neg (Nat.not_lt.mpr (hlen ▸ Nat.le_add_right _ _))] at hr
      cases hr
      refine ⟨headers, rfl, ?_⟩
      cases headers with
      | nil =>
        obtain rfl : left = [] := hleft
        refine .inl ⟨rfl, ?_, payloads, ?_, hbody⟩
        · unfold finished
          rw [if_pos (show q.count = d.headersSize.toNat from hlen)]
          rfl
        · rw [hafter]
          exact hframes
      | cons next headers =>
        have hpos := List.length_pos_of_ne_nil hleft.ne_nil
        have hmore : ¬ q.count = d.headersSize.toNat := by omega
        refine .inr ⟨?_, left, payloads, after, hafter, hframes, hbody, ?_, hlen, List.cons_ne_nil _ _, hleft⟩
        · unfold finished
          rw [if_neg hmore, hd]
          rfl
        · rw [if_neg hmore]
          exact hd
    rcases beginning_cases hw with ⟨c, rfl⟩ | ⟨s, -, rfl⟩
    · rw [List.append_assoc] at hw
      refine hlong ((hresumes block c).ok hq) ?_
      rw [List.append_assoc, List.append_cancel_left hw]
    · rw [List.append_assoc] at hw
      obtain rfl := List.append_cancel_left hw
      match hc : d.qpack.decodeBytes b with
      | (.ok header', q', c) =>
        have hsame := (hresumes b s).ok hc
        rw [hq] at hsame
        obtain ⟨heq, rfl, rfl⟩ : (.ok header : Except Error Header) = .ok header' ∧ q = q' ∧ left = c ++ s :=
          ⟨congrArg Prod.fst hsame, congrArg (fun p => p.2.1) hsame, congrArg (fun p => p.2.2) hsame⟩
        cases heq
        exact hlong hc (List.append_assoc _ _ _).symm
      | (.error e, q', c) =>
        by_cases he : e = .incomplete
        · subst he
          have hshort := (hresumes b s).short hc
          rw [hq] at hshort
          obtain ⟨used', hused', hcount'⟩ := Qpack.Decoder.decodeBytes_count hc
          unfold decodeQpackBytes at hr
          rw [hc] at hr
          cases hr
          refine ⟨rfl, rest ++ s, payloads, after, (List.append_assoc _ _ _).symm, hframes, hbody, hd, ?_,
            hne, q, left, hshort.symm, hleft⟩
          dsimp only
          rw [hcount', ← hsize, hused']
          simp only [List.length_append, Nat.add_assoc]
        · have hfails := (hresumes b s).error hc he
          rw [hq] at hfails
          cases hfails

/-- A call that has the rest of the block takes a header. -/
theorem decodeQpackBytes_whole (h : d.Left b headers body) : ∃ header d' rest,
    d.decodeQpackBytes b = (.ok header, d', rest) := by
  rcases hr : d.decodeQpackBytes b with ⟨e | header, d', rest⟩
  · have hyields := decodeQpackBytes_left (x := []) (by rwa [List.append_nil]) hr
    obtain ⟨block, payloads, after, rfl, -, -, -, hsize, hne, hreads⟩ := h
    cases headers with
    | nil => exact absurd rfl hne
    | cons header headers =>
      obtain ⟨q, left, hq, -⟩ := hreads
      obtain ⟨used, hused, hcount⟩ := Qpack.Decoder.decodeBytes_count hq
      unfold decodeQpackBytes at hr
      rw [(d.qpack.decodeBytes_resumes block after).ok hq] at hr
      dsimp only at hr
      have hle : ¬ d.headersSize.toNat < q.count := by
        rw [← hsize, hcount, hused, List.length_append]
        omega
      rw [if_neg hle] at hr
      cases hr
  · exact ⟨header, d', rest, rfl⟩

end Headers.Decoder

/-! ## The receiver -/

namespace Endpoint.Request

/-- The events are parts of a body. -/
def Parts (id : UInt64) (events : List Event) : Prop :=
  ∀ event ∈ events, ∃ fin part, event = .body id fin part

/-- What an answer adds to the events. -/
def answered : Except Error Event → List Event
  | .ok event => [event]
  | .error _ => []

/-- The place of a receiver in a message, `x` of it being still to come, and the events that it has handed
out. -/
inductive Follows (headers : List Header) (body : List UInt8) (r : ByteReceiver) (x : List UInt8) :
    List Event → Prop where
  | opening {block : List UInt8} {payloads : List (List UInt8)} : r.state = .closed ∨ r.state = .headers →
      r.headers = {} → r.body = {} → Frame.MessageWire block payloads (r.bytes ++ x) →
      payloads.flatten = body → headers ≠ [] → ({} : Qpack.Decoder).Reads block headers →
      Follows headers body r x []
  | block {said : List Event} {left : List Header} : r.state = .headers → r.body = {} →
      r.headers.Left (r.bytes ++ x) left body → said ++ headersOf r.id left = headersOf r.id headers →
      Follows headers body r x said
  | body {parts : List Event} {left : List UInt8} : r.state = .body → r.body.Left (r.bytes ++ x) left →
      Parts r.id parts → bodyBytes parts ++ left = body →
      Follows headers body r x (headersOf r.id headers ++ parts)
  | ended {parts : List Event} (n : Nat) : r.state = .fin → r.finReceived = true → Parts r.id parts →
      bodyBytes parts = body →
      Follows headers body r x (headersOf r.id headers ++ parts ++ List.replicate n (.finished r.id))

namespace Follows

variable {f : ProcessFrame} {headers : List Header} {body x : List UInt8} {r r' : ByteReceiver}
  {heard : List Event} {a : Except Error Event}

/-- An event that brings more of the message. -/
theorem fed (hr : r.finReceived = false) (data : Quic.Data)
    (h : Follows headers body r (data.buffer.bytes ++ x) heard) :
    Follows headers body (r.fed data) x heard := by
  have hbytes : (r.fed data).bytes ++ x = r.bytes ++ (data.buffer.bytes ++ x) := List.append_assoc _ _ _
  cases h with
  | opening hs hd hb hw hbody hne hreads =>
    exact .opening hs hd hb (hbytes ▸ hw) hbody hne hreads
  | block hs hb hleft hsaid => exact .block hs hb (hbytes ▸ hleft) hsaid
  | body hs hleft hparts hbody => exact .body hs (hbytes ▸ hleft) hparts hbody
  | ended n hs hfin hparts hbody =>
    rw [hr] at hfin
    cases hfin

/-- A call that has too few bytes fails, and changes nothing. -/
theorem handleError_incomplete (f : ProcessFrame) (r : ByteReceiver) :
    ∃ e, ByteReceiver.handleError f r .incomplete = (.error e, r) := by
  cases hfin : r.finReceived with
  | true => exact ⟨_, ByteReceiver.handleError_fin hfin⟩
  | false => exact ⟨_, ByteReceiver.handleError_eq (.inr hfin) nofun⟩

/-- A call that has the preamble of the HEADERS frame is one within the block. -/
theorem process_preamble (hs : r.state = .headers) (hd : r.headers = {}) {size : UInt64}
    {w c block : List UInt8} (hpre : Frame.Preamble .headers size w) (hb : r.bytes = w ++ c)
    (hne : headers ≠ []) (hreads : ({} : Qpack.Decoder).Reads block headers) (hsize : block.length = size.toNat) :
    r.process f =
      ByteReceiver.process f { r with headers := { state := .qpack, headersSize := size }, bytes := c } := by
  have hpos : size ≠ 0 := by
    rintro rfl
    cases headers with
    | nil => exact hne rfl
    | cons header headers => exact hreads.ne_nil (List.length_eq_zero_iff.mp hsize)
  refine ByteReceiver.process_headers_congr hs ?_
  rw [hb, hd, Headers.Decoder.decodeBytes_preamble rfl hpre, if_neg hpos]
  exact (Headers.Decoder.decodeBytes_qpack rfl _).symm

/-- A call within the header block. -/
theorem process_block {said : List Event} {left : List Header} (hs : r.state = .headers) (hb : r.body = {})
    (hleft : r.headers.Left (r.bytes ++ x) left body)
    (hsaid : said ++ headersOf r.id left = headersOf r.id headers) (hx : r.finReceived = true → x = [])
    (hr : r.process f = (a, r')) : Follows headers body r' x (said ++ answered a) := by
  rcases hd : r.headers.decodeQpackBytes r.bytes with ⟨a', d, rest⟩
  have hyields := Headers.Decoder.decodeQpackBytes_left hleft hd
  have hqpack : r.headers.state = .qpack := by
    obtain ⟨-, -, -, -, -, -, hqpack, -⟩ := hleft
    exact hqpack
  rw [← Headers.Decoder.decodeBytes_qpack hqpack] at hd
  cases a' with
  | error e =>
    obtain ⟨rfl, hleft'⟩ := hyields
    obtain ⟨e, he⟩ := handleError_incomplete f { r with headers := d, bytes := rest }
    rw [ByteReceiver.process_headers_error hs hd, he] at hr
    cases hr
    rw [answered, List.append_nil]
    exact .block hs hb hleft' hsaid
  | ok header =>
    rw [ByteReceiver.process_headers_ok hs hd] at hr
    cases hr
    obtain ⟨left, rfl, ⟨rfl, hfin, hbody⟩ | ⟨hfin, hleft'⟩⟩ := hyields
    · -- the last header: the body is next, or the end where there is nothing left
      rw [hfin]
      have hall : said ++ answered (.ok (.header r.id true header)) = headersOf r.id headers ++ [] :=
        hsaid.trans (List.append_nil _).symm
      rw [hall, Bool.true_and, if_pos rfl]
      by_cases hend : (rest.isEmpty && r.finReceived) = true
      · obtain ⟨hrest, hend'⟩ := Bool.and_eq_true_iff.mp hend
        rw [List.isEmpty_iff.mp hrest, hx hend'] at hbody
        rw [if_pos hend, ← List.append_nil (_ ++ _)]
        exact .ended 0 rfl hend' nofun hbody.body_nil.symm
      · rw [if_neg hend]
        exact .body rfl (hb ▸ hbody) nofun rfl
    · rw [hfin]
      cases left with
      | nil =>
        obtain ⟨-, -, -, -, -, -, -, -, hne, -⟩ := hleft'
        exact absurd rfl hne
      | cons next left =>
        refine .block rfl hb hleft' ?_
        rw [List.append_assoc]
        exact hsaid

/-- **A call keeps the place.** -/
theorem process (h : Follows headers body r x heard) (hx : r.finReceived = true → x = [])
    (hr : r.process f = (a, r')) : Follows headers body r' x (heard ++ answered a) := by
  cases h with
  | opening hs hd hb hw hbody hne hreads =>
    have hsame {e : Error} (he : r.process f = (.error e, r)) :
        Follows headers body r' x ([] ++ answered a) := by
      rw [he] at hr
      cases hr
      exact .opening hs hd hb hw hbody hne hreads
    rcases hs with hclosed | hs
    · refine hsame (e := .internal) ?_
      unfold ByteReceiver.process
      rw [hclosed]
    · obtain ⟨size, w, rest, hpre, hsize, hframes, hwire⟩ := hw
      rcases beginning_cases hwire with ⟨c, hc⟩ | ⟨s, hs', hshort⟩
      · rw [hc, List.append_assoc] at hwire
        rw [process_preamble hs hd hpre hc hne hreads hsize] at hr
        have hsaid : ([] : List Event) ++ headersOf r.id headers = headersOf r.id headers := List.nil_append _
        exact process_block (r := { r with
          headers := { state := .qpack, headersSize := size }, bytes := c }) hs hb
          ⟨_, _, _, List.append_cancel_left hwire, hframes, hbody, rfl, (Nat.zero_add _).trans hsize, hne, hreads⟩
          hsaid hx hr
      · have hdec := Headers.Decoder.decodeBytes_short (d := r.headers) (by rw [hd]) hpre hshort hs'
        obtain ⟨e, he⟩ := handleError_incomplete f r
        exact hsame ((ByteReceiver.process_headers_error hs hdec).trans he)
  | block hs hb hleft hsaid => exact process_block hs hb hleft hsaid hx hr
  | @body events left hs hleft hparts hbody =>
    rcases hd : r.body.decodeBytes r.bytes with ⟨a', d, rest⟩
    have hyields := Body.Decoder.decodeBytes_left hleft hd
    cases a' with
    | error e =>
      obtain ⟨rfl, hleft'⟩ := hyields
      obtain ⟨e, he⟩ := handleError_incomplete f { r with body := d, bytes := rest }
      rw [ByteReceiver.process_body_error hs hd, he] at hr
      cases hr
      rw [answered, List.append_nil]
      exact .body hs hleft' hparts hbody
    | ok part =>
      obtain ⟨left', rfl, hleft', hdone⟩ := hyields
      have hparts' (fin : Bool) : Parts r.id (events ++ [.body r.id fin part]) := by
        intro event hmem
        rcases List.mem_append.mp hmem with hmem | hmem
        · exact hparts event hmem
        · exact ⟨fin, part, List.mem_singleton.mp hmem⟩
      have hbody' (fin : Bool) : bodyBytes (events ++ [.body r.id fin part]) ++ left' = body := by
        rw [bodyBytes_append, ← hbody, ← List.append_assoc]
        exact congrArg (bodyBytes events ++ · ++ left') (List.append_nil part.bytes)
      rw [ByteReceiver.process_body_ok hs hd] at hr
      unfold ByteReceiver.bodyPart at hr
      by_cases hend : (rest.isEmpty && r.finReceived) = true
      · obtain ⟨hrest, hend'⟩ := Bool.and_eq_true_iff.mp hend
        obtain rfl := hx hend'
        obtain rfl := List.isEmpty_iff.mp hrest
        rw [if_pos hend, hdone rfl, if_neg Bool.false_ne_true] at hr
        cases hr
        have hwhole : bodyBytes (events ++ [.body r.id true part]) = body := by
          rw [← hbody' true, hleft'.body_nil, List.append_nil]
        have hended : Follows headers body { r with body := d, bytes := [], state := .fin } [] _ :=
          .ended 0 rfl hend' (hparts' true) hwhole
        rwa [List.replicate_zero, List.append_nil, ← List.append_assoc] at hended
      · rw [if_neg hend] at hr
        cases hr
        rw [List.append_assoc]
        exact .body hs hleft' (hparts' false) (hbody' false)
  | ended n hs hfin hparts hbody =>
    unfold ByteReceiver.process at hr
    rw [hs] at hr
    cases hr
    rw [List.append_assoc, answered, ← List.replicate_succ']
    exact .ended (n + 1) hs hfin hparts hbody

/-- A call that is short fails as the receiver is told of the end or not. -/
theorem handleError_fails {e : Error} (hr : ByteReceiver.handleError f r .incomplete = (.error e, r')) :
    e = .incomplete ∧ r.finReceived = false ∨ e = .malformedFrame ∧ r.finReceived = true := by
  cases hfin : r.finReceived with
  | true =>
    rw [ByteReceiver.handleError_fin hfin] at hr
    cases hr
    exact .inr ⟨rfl, rfl⟩
  | false =>
    rw [ByteReceiver.handleError_eq (e := .incomplete) (.inr hfin) nofun] at hr
    cases hr
    exact .inl ⟨rfl, rfl⟩

/-- **A call fails** because there is too little of the message yet, because the receiver is not started, or at the
end of a message that was handed out whole. -/
theorem fails {e : Error} (h : Follows headers body r x heard) (hx : r.finReceived = true → x = [])
    (hr : r.process f = (.error e, r')) : (e = .incomplete ∧ r.finReceived = false) ∨
      r.state = .closed ∧ e = .internal ∨ e = .malformedFrame ∧ r.finReceived = true ∧
        ∃ parts, heard = headersOf r.id headers ++ parts ∧ Parts r.id parts ∧ bodyBytes parts = body := by
  -- in the header block a message that is all there is not too short
  have hblock {r : ByteReceiver} {left : List Header} (hs : r.state = .headers)
      (hleft : r.headers.Left (r.bytes ++ x) left body) (hx : r.finReceived = true → x = [])
      (hr : r.process f = (.error e, r')) : e = .incomplete ∧ r.finReceived = false := by
    rcases hd : r.headers.decodeQpackBytes r.bytes with ⟨a', d, rest⟩
    have hyields := Headers.Decoder.decodeQpackBytes_left hleft hd
    have hqpack : r.headers.state = .qpack := by
      obtain ⟨-, -, -, -, -, -, hqpack, -⟩ := hleft
      exact hqpack
    have hd' := hd
    rw [← Headers.Decoder.decodeBytes_qpack hqpack] at hd'
    cases a' with
    | ok header =>
      rw [ByteReceiver.process_headers_ok hs hd'] at hr
      cases hr
    | error e' =>
      obtain ⟨rfl, -⟩ := hyields
      rw [ByteReceiver.process_headers_error hs hd'] at hr
      rcases handleError_fails hr with hwaits | ⟨-, hfin⟩
      · exact hwaits
      · rw [hx hfin, List.append_nil] at hleft
        obtain ⟨header, d', rest', hok⟩ := Headers.Decoder.decodeQpackBytes_whole hleft
        cases hok.symm.trans hd
  cases h with
  | opening hs hd hb hw hbody hne hreads =>
    rcases hs with hclosed | hs
    · unfold ByteReceiver.process at hr
      rw [hclosed] at hr
      cases hr
      exact .inr (.inl ⟨hclosed, rfl⟩)
    · obtain ⟨size, w, rest, hpre, hsize, hframes, hwire⟩ := hw
      refine .inl ?_
      rcases beginning_cases hwire with ⟨c, hc⟩ | ⟨s, hs', hshort⟩
      · rw [hc, List.append_assoc] at hwire
        rw [process_preamble hs hd hpre hc hne hreads hsize] at hr
        exact hblock (r := { r with headers := { state := .qpack, headersSize := size }, bytes := c }) hs
          ⟨_, _, _, List.append_cancel_left hwire, hframes, hbody, rfl, (Nat.zero_add _).trans hsize, hne, hreads⟩
          hx hr
      · have hdec := Headers.Decoder.decodeBytes_short (d := r.headers) (by rw [hd]) hpre hshort hs'
        rw [ByteReceiver.process_headers_error hs hdec] at hr
        rcases handleError_fails hr with hwaits | ⟨-, hfin⟩
        · exact hwaits
        · -- the preamble is there where the message is
          rw [hx hfin, List.append_nil, hshort, List.append_assoc] at hwire
          exact absurd (List.append_eq_nil_iff.mp (List.self_eq_append_right.mp hwire)).1 hs'
  | block hs hb hleft hsaid => exact .inl (hblock hs hleft hx hr)
  | @body events left hs hleft hparts hbody =>
    rcases hd : r.body.decodeBytes r.bytes with ⟨a', d, rest⟩
    have hyields := Body.Decoder.decodeBytes_left hleft hd
    cases a' with
    | error e' =>
      obtain ⟨rfl, -⟩ := hyields
      rw [ByteReceiver.process_body_error hs hd] at hr
      rcases handleError_fails hr with hwaits | ⟨he, hfin⟩
      · exact .inl hwaits
      · rw [hx hfin, List.append_nil] at hleft
        rw [Body.Decoder.decodeBytes_whole hleft hd, List.append_nil] at hbody
        exact .inr (.inr ⟨he, hfin, events, rfl, hparts, hbody⟩)
    | ok part =>
      obtain ⟨left', rfl, hleft', hdone⟩ := hyields
      rw [ByteReceiver.process_body_ok hs hd] at hr
      unfold ByteReceiver.bodyPart at hr
      by_cases hend : (rest.isEmpty && r.finReceived) = true
      · obtain ⟨hrest, hend'⟩ := Bool.and_eq_true_iff.mp hend
        obtain rfl := hx hend'
        obtain rfl := List.isEmpty_iff.mp hrest
        rw [if_pos hend, hdone rfl, if_neg Bool.false_ne_true] at hr
        cases hr
      · rw [if_neg hend] at hr
        cases hr
  | ended n hs hfin hparts hbody =>
    unfold ByteReceiver.process at hr
    rw [hs] at hr
    cases hr

end Follows

/-! ## What can be said of it -/

/-- The events are the headers as far as they go, then the body as far as it goes, then the end if all has
come. -/
structure Tells (id : UInt64) (headers : List Header) (body : List UInt8) (ended : Prop)
    (heads parts ends : List Event) : Prop where
  begins : heads <+: headersOf id headers
  of_body : Parts id parts
  payload : bodyBytes parts <+: body
  of_end : ∀ event ∈ ends, event = .finished id
  in_order : parts ≠ [] ∨ ends ≠ [] → heads = headersOf id headers
  whole : ends ≠ [] → bodyBytes parts = body ∧ ended

/-- What was heard can be told so. -/
def Hears (id : UInt64) (headers : List Header) (body : List UInt8) (ended : Prop) (heard : List Event) :
    Prop :=
  ∃ heads parts ends, heard = heads ++ parts ++ ends ∧ Tells id headers body ended heads parts ends

/-- What was heard at a place can be told. -/
theorem Follows.hears {headers : List Header} {body x : List UInt8} {r : ByteReceiver} {heard : List Event}
    (h : Follows headers body r x heard) : Hears r.id headers body (r.finReceived = true) heard := by
  cases h with
  | opening => exact ⟨[], [], [], rfl, List.nil_prefix, nofun, List.nil_prefix, nofun, nofun, nofun⟩
  | block _ _ _ hsaid =>
    refine ⟨heard, [], [], ?_, ⟨_, hsaid⟩, nofun, List.nil_prefix, nofun, nofun, nofun⟩
    rw [List.append_nil, List.append_nil]
  | body _ _ hparts hbody =>
    exact ⟨_, _, [], (List.append_nil _).symm, List.prefix_rfl, hparts, ⟨_, hbody⟩, nofun, fun _ => rfl, nofun⟩
  | ended n _ hfin hparts hbody =>
    exact ⟨_, _, _, rfl, List.prefix_rfl, hparts, ⟨[], (List.append_nil _).trans hbody⟩,
      fun event hmem => (List.mem_replicate.mp hmem).2, fun _ => rfl, fun _ => ⟨hbody, hfin⟩⟩

end Endpoint.Request

end Bnl.Http3
