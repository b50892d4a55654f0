import Bnl.Laws.Chunking
import Bnl.Laws.HeaderBlock

/-!
# What a receiver delivers

A message that is all there is followed step by step: a header for each line of the block, a part for each
payload, and then the end. The end is where it goes wrong. A receiver that has used up its bytes learns of the
end of the stream only from an event that brings bytes, and a payload without bytes at the very end is never
handed out.

**The law** is `delivers_iff`: for any headers and payloads on any wire of theirs, split in any way, the
receiver hands out the headers in order, the body and the end, and does not fail, exactly where neither of the
two is so. The condition is on the events and the last payload.

Since the cuts do not matter (`run_events`), all but the last event may be taken to have come at once. Then it
is one case analysis on whether that event has bytes, and behind it inductions over the lines and over the
payloads, each of which is a turn of the loop.

A message that is cut off is not spoken of here, nor one that does not decode.
-/

namespace Bnl.Http3.Endpoint.Request

open Incremental Bnl.Base

/-- The events of a list of headers: the last one is flagged. -/
def headersOf (id : UInt64) : List Header → List Event
  | [] => []
  | [header] => [.header id true header]
  | header :: next :: headers => .header id false header :: headersOf id (next :: headers)

/-- Headers are no part of a body. -/
theorem otherEvents_headersOf (id : UInt64) (headers : List Header) :
    otherEvents (headersOf id headers) = headersOf id headers ∧
      bodyBytes (headersOf id headers) = [] := by
  induction headers with
  | nil => exact ⟨rfl, rfl⟩
  | cons header headers ih =>
    cases headers with
    | nil => exact ⟨rfl, rfl⟩
    | cons next headers => exact ⟨congrArg (Event.header id false header :: ·) ih.1, ih.2⟩

namespace ByteReceiver

variable {f : ProcessFrame} {r : ByteReceiver}

/-- A turn that hands out an event. -/
theorem drain_process {r' : ByteReceiver} {event : Event} (h : r.process f = (.ok event, r'))
    (hfin : ∀ id, event ≠ .finished id) :
    (machine f).drain (.ok r) =
      (event :: ((machine f).drain (.ok r')).1, ((machine f).drain (.ok r')).2) := by
  have hstep : (machine f).step (.ok r) = (.emit event, .ok r') := by
    rw [step_ok, h]
    cases event with
    | finished id => exact absurd rfl (hfin id)
    | _ => rfl
  exact Machine.drain_emit hstep

theorem drain_error {r' : ByteReceiver} {e : Error} (h : r.process f = (.error e, r'))
    (hne : e ≠ .incomplete) : (machine f).drain (.ok r) = ([], some (.error e), .ok r') := by
  have hstep : (machine f).step (.ok r) = (.stop (.error e), .ok r') := by
    rw [step_ok, h, verdict_error hne]
  exact Machine.drain_stop hstep

/-- A turn at the end. -/
theorem drain_fin (h : r.state = .fin) :
    (machine f).drain (.ok r) = ([], some (.ok ()), .ok r) := by
  have hstep : (machine f).step (.ok r) = (.stop (.ok ()), .ok r) := by
    rw [step_ok]
    unfold process
    rw [h]
    rfl
  exact Machine.drain_stop hstep

/-- The lines of a block come out as headers, the last one flagged, and the receiver is done with
them. -/
theorem drain_block {headers : List Header} (hne : headers ≠ []) {b rest : List UInt8}
    (hs : r.state = .headers) (hd : r.headers.state = .qpack)
    (hsize : r.headers.qpack.count + b.length = r.headers.headersSize.toNat)
    (hreads : r.headers.qpack.Reads b headers) (hb : r.bytes = b ++ rest) :
    ∃ d, (machine f).drain (.ok r) =
      let r' := { r with headers := d, bytes := rest
                         state := if rest.isEmpty && r.finReceived then .fin else .body }
      (headersOf r.id headers ++ ((machine f).drain (.ok r')).1, ((machine f).drain (.ok r')).2) := by
  induction headers generalizing r b with
  | nil => exact absurd rfl hne
  | cons header headers ih =>
    obtain ⟨q, b', hq, hreads'⟩ := hreads
    obtain ⟨used, hused, hcount⟩ := Qpack.Decoder.decodeBytes_count hq
    have hlen : q.count + b'.length = r.headers.headersSize.toNat := by
      rw [← hsize, hcount, hused, List.length_append, Nat.add_assoc]
    have hlong : r.headers.decodeBytes r.bytes = (.ok header, { r.headers with
        qpack := q
        state := if q.count = r.headers.headersSize.toNat then .fin else r.headers.state },
        b' ++ rest) := by
      rw [Headers.Decoder.decodeBytes_qpack hd, Headers.Decoder.decodeQpackBytes, hb,
        (r.headers.qpack.decodeBytes_resumes b rest).ok hq]
      exact if_neg (Nat.not_lt.mpr (show q.count ≤ r.headers.headersSize.toNat by omega))
    have hstep := process_headers_ok (f := f) hs hlong
    cases headers with
    | nil =>
      obtain rfl : b' = [] := hreads'
      rw [if_pos (show q.count = r.headers.headersSize.toNat from hlen)] at hstep
      exact ⟨_, drain_process hstep nofun⟩
    | cons next headers =>
      have hpos := List.length_pos_of_ne_nil hreads'.ne_nil
      rw [if_neg (show ¬ q.count = r.headers.headersSize.toNat by omega), hd] at hstep
      obtain ⟨d, hrest⟩ := ih (List.cons_ne_nil _ _) (b := b') (r := { r with
        headers := { r.headers with qpack := q, state := .qpack }, bytes := b' ++ rest
        state := .headers }) rfl rfl hlen hreads' rfl
      refine ⟨d, (drain_process hstep nofun).trans ?_⟩
      exact congrArg (fun x : Result _ Event _ => (Event.header r.id false header :: x.1, x.2)) hrest

/-- A message that is all there: its headers come out, and what is left is the DATA frames. -/
theorem drain_message {headers : List Header} (hne : headers ≠ []) {b wire : List UInt8}
    {payloads : List (List UInt8)} (hreads : ({} : Qpack.Decoder).Reads b headers)
    (hwire : Frame.MessageWire b payloads wire) (hs : r.state = .headers) (hd : r.headers = {})
    (hb : r.bytes = wire) : ∃ d rest, Frame.DataFrames payloads rest ∧ (machine f).drain (.ok r) =
      let r' := { r with headers := d, bytes := rest
                         state := if rest.isEmpty && r.finReceived then .fin else .body }
      (headersOf r.id headers ++ ((machine f).drain (.ok r')).1, ((machine f).drain (.ok r')).2) := by
  obtain ⟨size, w, rest, hw, hlen, hrest, rfl⟩ := hwire
  have hblock : r.headers.decodeBytes r.bytes =
      ({ state := .qpack, headersSize := size } : Headers.Decoder).decodeBytes (b ++ rest) := by
    have hsize : size ≠ 0 := by
      rintro rfl
      cases headers with
      | nil => exact hne rfl
      | cons header headers => exact hreads.ne_nil (List.length_eq_zero_iff.mp hlen)
    rw [hb, hd, Headers.Decoder.decodeBytes_preamble rfl hw, if_neg hsize]
    exact (Headers.Decoder.decodeBytes_qpack rfl _).symm
  have hcongr := process_headers_congr (f := f) hs hblock
  have hdrain : (machine f).drain (.ok r) = (machine f).drain (.ok { r with
      headers := { state := .qpack, headersSize := size }, bytes := b ++ rest }) := by
    refine Machine.drain_congr ?_
    rw [step_ok, step_ok, hcongr]
  obtain ⟨d, hd'⟩ := drain_block (f := f) hne (r := { r with
    headers := { state := .qpack, headersSize := size }, bytes := b ++ rest }) hs rfl
    ((Nat.zero_add _).trans hlen) hreads rfl
  exact ⟨d, rest, hrest, hdrain.trans hd'⟩

/-- What a payload is handed out as. -/
theorem decodeBytes_payload {d : Body.Decoder} (hd : d.state = .frame) {size : UInt64}
    {w payload rest : List UInt8} (hw : Frame.Preamble .data size w)
    (hlen : payload.length = size.toNat) (hne : payload ++ rest ≠ []) :
    d.decodeBytes (w ++ (payload ++ rest)) = (.ok ⟨payload⟩, { state := .frame, remaining := 0 }, rest) := by
  have hsize : ({ state := .data, remaining := size } : Body.Decoder).bodyPartSize
      (payload ++ rest) = payload.length := by
    unfold Body.Decoder.bodyPartSize
    rw [List.length_append, hlen]
    exact if_neg (Nat.not_lt.mpr (Nat.le_add_right _ _))
  have hadvance : ({ state := .data, remaining := size } : Body.Decoder).advance payload.length =
      { state := .frame, remaining := 0 } := by
    unfold Body.Decoder.advance
    rw [hlen, UInt64.ofNat_toNat, UInt64.sub_self]
    rfl
  rw [Body.Decoder.decodeBytes_preamble hd hw, Body.Decoder.decodeDataBytes, if_neg hne, hsize,
    hadvance, List.take_left, List.drop_left]

/-- A payload without bytes at the end is never handed out. -/
theorem decodeBytes_payload_nil {d : Body.Decoder} (hd : d.state = .frame) {size : UInt64}
    {w : List UInt8} (hw : Frame.Preamble .data size w) :
    d.decodeBytes (w ++ []) = (.error .incomplete, { state := .data, remaining := size }, []) :=
  Body.Decoder.decodeBytes_preamble hd hw []

/-- Where a payload is to come, so are bytes. -/
theorem dataFrames_ne_nil {payload rest : List UInt8} {payloads : List (List UInt8)}
    (h : Frame.DataFrames (payload :: payloads) rest) : rest ≠ [] := by
  cases h with
  | cons hw => exact fun hnil => hw.ne_nil (List.append_eq_nil_iff.mp hnil).1

section Payloads

variable {payloads : List (List UInt8)}

/-- A part that is not the last comes out, and the decoder is at the next frame. -/
theorem drain_part (hs : r.state = .body) (hd : r.body.state = .frame) {size : UInt64}
    {w payload rest : List UInt8} (hw : Frame.Preamble .data size w)
    (hlen : payload.length = size.toNat) (hne : payload ++ rest ≠ [])
    (hopen : (rest.isEmpty && r.finReceived) = false) (hb : r.bytes = w ++ (payload ++ rest)) :
    (machine f).drain (.ok r) =
      let r' := { r with body := { state := .frame, remaining := 0 }, bytes := rest }
      (.body r.id false ⟨payload⟩ :: ((machine f).drain (.ok r')).1,
        ((machine f).drain (.ok r')).2) := by
  have hpart : r.body.decodeBytes r.bytes = _ := hb ▸ decodeBytes_payload hd hw hlen hne
  exact drain_process ((process_body_ok hs hpart).trans (bodyPart_open hopen)) nofun

/-- With the end of the stream known, a last payload with bytes ends it well. -/
theorem drain_payloads (hne : payloads ≠ []) (hlast : ∀ p, payloads.getLast? = some p → p ≠ [])
    (hs : r.state = .body) (hd : r.body.state = .frame) (hfin : r.finReceived = true)
    (hw : Frame.DataFrames payloads r.bytes) :
    ∃ os s, (machine f).drain (.ok r) = (os, some (.ok ()), s) ∧ otherEvents os = [] ∧
      bodyBytes os = payloads.flatten := by
  induction payloads generalizing r with
  | nil => exact absurd rfl hne
  | cons payload payloads ih =>
    generalize hb : r.bytes = bytes at hw
    cases hw with
    | cons hpre hlen hrest =>
      cases payloads with
      | nil =>
        cases hrest
        have hpayload := hlast payload rfl
        have hpart : r.body.decodeBytes r.bytes = _ := hb ▸ decodeBytes_payload hd hpre hlen
          (fun hnil => hpayload (List.append_eq_nil_iff.mp hnil).1)
        have hend : (([] : List UInt8).isEmpty && r.finReceived) = true := hfin
        have hstep : r.process f = (.ok (.body r.id true ⟨payload⟩), { r with
            body := { state := .frame, remaining := 0 }, bytes := [], state := .fin }) := by
          rw [process_body_ok hs hpart, bodyPart, if_pos hend]
          rfl
        have hdrain := drain_process hstep nofun
        have hend := drain_fin (f := f) (r := { r with
          body := { state := .frame, remaining := 0 }, bytes := [], state := .fin }) rfl
        rw [hend] at hdrain
        exact ⟨_, _, hdrain, rfl, rfl⟩
      | cons next payloads =>
        have hne' := dataFrames_ne_nil hrest
        obtain ⟨os, s, hdrain, hos, hbytes⟩ := ih (List.cons_ne_nil _ _) hlast
          (r := { r with body := { state := .frame, remaining := 0 }, bytes := _ }) hs rfl hfin hrest
        refine ⟨.body r.id false ⟨payload⟩ :: os, s, ?_, hos, congrArg (payload ++ ·) hbytes⟩
        rw [drain_part hs hd hpre hlen (fun hnil => hne' (List.append_eq_nil_iff.mp hnil).2)
          (by rw [List.isEmpty_eq_false_iff.mpr hne', Bool.false_and]) hb]
        dsimp only
        rw [hdrain]

/-- With the end of the stream known, no payload, or a last one without bytes, is a failure. -/
theorem drain_payloads_malformed (hlast : ∀ p, payloads.getLast? = some p → p = [])
    (hs : r.state = .body) (hd : r.body.state = .frame) (hfin : r.finReceived = true)
    (hw : Frame.DataFrames payloads r.bytes) :
    ∃ os s, (machine f).drain (.ok r) = (os, some (.error .malformedFrame), s) := by
  have hshort {r : ByteReceiver} {d : Body.Decoder} (hs : r.state = .body)
      (hfin : r.finReceived = true)
      (hd : r.body.decodeBytes r.bytes = (.error .incomplete, d, [])) :
      ∃ os s, (machine f).drain (.ok r) = (os, some (.error .malformedFrame), s) := by
    have hstep := (process_body_error (f := f) hs hd).trans
      (handleError_fin (r := { r with body := d, bytes := [] }) hfin)
    exact ⟨_, _, drain_error hstep nofun⟩
  induction payloads generalizing r with
  | nil =>
    generalize hb : r.bytes = bytes at hw
    cases hw
    have hdec : r.body.decodeBytes r.bytes = _ := hb.symm ▸ Body.Decoder.decodeBytes_nil hd
    exact hshort hs hfin (hdec.trans (by rw [hb]))
  | cons payload payloads ih =>
    generalize hb : r.bytes = bytes at hw
    cases hw with
    | cons hpre hlen hrest =>
      cases payloads with
      | nil =>
        cases hrest
        obtain rfl := hlast payload rfl
        exact hshort hs hfin (hb ▸ decodeBytes_payload_nil hd hpre)
      | cons next payloads =>
        have hne' := dataFrames_ne_nil hrest
        obtain ⟨os, s, hdrain⟩ := ih hlast
          (r := { r with body := { state := .frame, remaining := 0 }, bytes := _ }) hs rfl hfin hrest
        refine ⟨.body r.id false ⟨payload⟩ :: os, s, ?_⟩
        rw [drain_part hs hd hpre hlen (fun hnil => hne' (List.append_eq_nil_iff.mp hnil).2)
          (by rw [List.isEmpty_eq_false_iff.mpr hne', Bool.false_and]) hb]
        dsimp only
        rw [hdrain]

/-- Without the end of the stream the receiver uses all bytes up and waits. -/
theorem drain_payloads_open (hs : r.state = .body) (hd : r.body.state = .frame)
    (hfin : r.finReceived = false) (hw : Frame.DataFrames payloads r.bytes) :
    ∃ os r', (machine f).drain (.ok r) = (os, none, .ok r') ∧ r'.state = .body ∧ r'.bytes = [] ∧
      r'.finReceived = false := by
  have hshort {r : ByteReceiver} {d : Body.Decoder} (hs : r.state = .body)
      (hfin : r.finReceived = false)
      (hd : r.body.decodeBytes r.bytes = (.error .incomplete, d, [])) :
      ∃ os r', (machine f).drain (.ok r) = (os, none, .ok r') ∧ r'.state = .body ∧ r'.bytes = [] ∧
        r'.finReceived = false := by
    have hstep : (machine f).step (.ok r) = (.wait, .ok { r with body := d, bytes := [] }) := by
      rw [step_ok, process_body_short hs hd hfin]
      rfl
    exact ⟨_, _, Machine.drain_wait hstep, hs, rfl, hfin⟩
  induction payloads generalizing r with
  | nil =>
    generalize hb : r.bytes = bytes at hw
    cases hw
    have hdec : r.body.decodeBytes r.bytes = _ := hb.symm ▸ Body.Decoder.decodeBytes_nil hd
    exact hshort hs hfin (hdec.trans (by rw [hb]))
  | cons payload payloads ih =>
    generalize hb : r.bytes = bytes at hw
    cases hw with
    | @cons _ _ _ rest _ hpre hlen hrest =>
      by_cases hne : payload ++ rest = []
      · obtain ⟨rfl, rfl⟩ := List.append_eq_nil_iff.mp hne
        exact hshort hs hfin (hb ▸ decodeBytes_payload_nil hd hpre)
      · obtain ⟨os, r', hdrain, hr'⟩ := ih
          (r := { r with body := { state := .frame, remaining := 0 }, bytes := rest }) hs rfl hfin hrest
        refine ⟨.body r.id false ⟨payload⟩ :: os, r', ?_, hr'⟩
        rw [drain_part hs hd hpre hlen hne (by rw [hfin, Bool.and_false]) hb]
        dsimp only
        rw [hdrain]

end Payloads

section Message

variable {headers : List Header} {b wire : List UInt8} {payloads : List (List UInt8)}

/-- A message with the end of the stream behind it, and bytes in its last payload. -/
theorem drain_whole (hne : headers ≠ []) (hreads : ({} : Qpack.Decoder).Reads b headers)
    (hwire : Frame.MessageWire b payloads wire) (hs : r.state = .headers) (hd : r.headers = {})
    (hbody : r.body = {}) (hb : r.bytes = wire) (hfin : r.finReceived = true)
    (hlast : ∀ p, payloads.getLast? = some p → p ≠ []) :
    ∃ os s, (machine f).drain (.ok r) = (os, some (.ok ()), s) ∧
      otherEvents os = headersOf r.id headers ∧ bodyBytes os = payloads.flatten := by
  obtain ⟨d, rest, hrest, hdrain⟩ := drain_message (f := f) hne hreads hwire hs hd hb
  obtain ⟨hother, hnone⟩ := otherEvents_headersOf r.id headers
  cases payloads with
  | nil =>
    cases hrest
    have hend := drain_fin (f := f) (r := { r with headers := d, bytes := [], state := .fin }) rfl
    rw [if_pos (show (([] : List UInt8).isEmpty && r.finReceived) = true from hfin)] at hdrain
    dsimp only at hdrain
    rw [hend, List.append_nil] at hdrain
    exact ⟨_, _, hdrain, hother, hnone⟩
  | cons payload payloads =>
    have hne' := dataFrames_ne_nil hrest
    rw [List.isEmpty_eq_false_iff.mpr hne', Bool.false_and, if_neg Bool.false_ne_true] at hdrain
    obtain ⟨os, s, hdrain', hos, hbytes⟩ := drain_payloads (f := f)
      (r := { r with headers := d, bytes := rest, state := .body }) (List.cons_ne_nil _ _) hlast rfl
      (hbody ▸ rfl) hfin hrest
    dsimp only at hdrain
    rw [hdrain'] at hdrain
    refine ⟨_, _, hdrain, ?_, ?_⟩
    · rw [otherEvents_append, hother, hos, List.append_nil]
    · rw [bodyBytes_append, hnone, hbytes, List.nil_append]

/-- A message with the end of the stream behind it, and a last payload without bytes. -/
theorem drain_whole_malformed (hne : headers ≠ []) (hreads : ({} : Qpack.Decoder).Reads b headers)
    (hwire : Frame.MessageWire b payloads wire) (hs : r.state = .headers) (hd : r.headers = {})
    (hbody : r.body = {}) (hb : r.bytes = wire) (hfin : r.finReceived = true)
    (hlast : payloads.getLast? = some []) :
    ∃ os s, (machine f).drain (.ok r) = (os, some (.error .malformedFrame), s) := by
  obtain ⟨d, rest, hrest, hdrain⟩ := drain_message (f := f) hne hreads hwire hs hd hb
  cases payloads with
  | nil => cases hlast
  | cons payload payloads =>
    have hne' := dataFrames_ne_nil hrest
    rw [List.isEmpty_eq_false_iff.mpr hne', Bool.false_and, if_neg Bool.false_ne_true] at hdrain
    obtain ⟨os, s, hdrain'⟩ := drain_payloads_malformed (f := f)
      (r := { r with headers := d, bytes := rest, state := .body })
      (fun p hp => Option.some.inj (hp.symm.trans hlast)) rfl (hbody ▸ rfl) hfin hrest
    dsimp only at hdrain
    rw [hdrain'] at hdrain
    exact ⟨_, _, hdrain⟩

/-- A message without the end of the stream. -/
theorem drain_whole_open (hne : headers ≠ []) (hreads : ({} : Qpack.Decoder).Reads b headers)
    (hwire : Frame.MessageWire b payloads wire) (hs : r.state = .headers) (hd : r.headers = {})
    (hbody : r.body = {}) (hb : r.bytes = wire) (hfin : r.finReceived = false) :
    ∃ os r', (machine f).drain (.ok r) = (os, none, .ok r') ∧ r'.state = .body ∧ r'.bytes = [] ∧
      r'.finReceived = false := by
  obtain ⟨d, rest, hrest, hdrain⟩ := drain_message (f := f) hne hreads hwire hs hd hb
  obtain ⟨os, r', hdrain', hr'⟩ := drain_payloads_open (f := f)
    (r := { r with headers := d, bytes := rest, state := .body }) rfl (hbody ▸ rfl) hfin hrest
  rw [hfin, Bool.and_false, if_neg Bool.false_ne_true] at hdrain
  dsimp only at hdrain
  rw [← hfin, hdrain'] at hdrain
  exact ⟨_, r', hdrain, hr'⟩

/-- The end of the stream alone is a failure to a receiver that has used its bytes up. -/
theorem run_fin_alone (hs : r.state = .body) (hb : r.bytes = []) (hfin : r.finReceived = false)
    (id : UInt64) {last : Buffer} (hlast : last.bytes = []) :
    ∃ os s, (machine f).run (.ok r) [{ id, fin := true, buffer := last }] =
      (os, some (.error .malformedFrame), s) := by
  have hfed : r.fed { id, fin := true, buffer := last } = { r with finReceived := true } := by
    unfold fed
    rw [hb, hlast]
    rfl
  have hdec : r.body.decodeBytes r.bytes = (.error .incomplete, r.body, []) := by
    rw [hb]
    cases hd : r.body.state with
    | frame => exact Body.Decoder.decodeBytes_nil hd
    | data =>
      rw [Body.Decoder.decodeBytes_data hd]
      rfl
  have hstep := (process_body_error (f := f) (r := { r with finReceived := true }) hs hdec).trans
    (handleError_fin (r := { r with finReceived := true, body := r.body, bytes := [] }) rfl)
  rw [Machine.run_singleton, feed_ok hfin, hfed]
  exact ⟨_, _, drain_error hstep nofun⟩

end Message

end ByteReceiver

/-! ## Whole streams -/

/-- The headers in order, the payloads in a row, and then the end. -/
def Delivered (id : UInt64) (headers : List Header) (body : List UInt8)
    (r : Result (Except Error Receiver) Event (Except Error Unit)) : Prop :=
  otherEvents r.1 = headersOf id headers ∧ bodyBytes r.1 = body ∧ r.2.1 = some (.ok ())

section Receive

variable (f : ProcessFrame) (id : UInt64) {headers : List Header} {b wire : List UInt8}
  {payloads : List (List UInt8)}

/-- The end of the stream comes with bytes: all is delivered, if the last payload has any. -/
theorem receive_delivers (hne : headers ≠ []) (hreads : ({} : Qpack.Decoder).Reads b headers)
    (hwire : Frame.MessageWire b payloads wire) {bs : List Buffer} {last : Buffer}
    (hbs : bs.flatMap Buffer.bytes ++ last.bytes = wire) (hlast : last.bytes ≠ [])
    (hpayload : ∀ p, payloads.getLast? = some p → p ≠ []) :
    Delivered id headers payloads.flatten (receive f id (bs ++ [last])) := by
  obtain ⟨hos, hv, hbytes⟩ := receive_eq f id hwire (show wire = _ ++ [] by rw [List.append_nil, hbs])
    hlast
  obtain ⟨os, s, hdrain, hother, hbody⟩ := ByteReceiver.drain_whole (f := f)
    (r := (started id).onBytes.fed { id, fin := true, buffer := ⟨wire⟩ }) hne hreads hwire rfl rfl rfl
    rfl rfl hpayload
  rw [hbs, Machine.run_singleton, ByteReceiver.feed_ok rfl, hdrain] at hos hv hbytes
  exact ⟨hos.trans hother, (hbytes hv).trans hbody, hv⟩

/-- The end of the stream comes with bytes, and the last payload has none. -/
theorem receive_malformed (hne : headers ≠ []) (hreads : ({} : Qpack.Decoder).Reads b headers)
    (hwire : Frame.MessageWire b payloads wire) {bs : List Buffer} {last : Buffer}
    (hbs : bs.flatMap Buffer.bytes ++ last.bytes = wire) (hlast : last.bytes ≠ [])
    (hpayload : payloads.getLast? = some []) :
    (receive f id (bs ++ [last])).2.1 = some (.error .malformedFrame) := by
  obtain ⟨-, hv, -⟩ := receive_eq f id hwire (show wire = _ ++ [] by rw [List.append_nil, hbs]) hlast
  obtain ⟨os, s, hdrain⟩ := ByteReceiver.drain_whole_malformed (f := f)
    (r := (started id).onBytes.fed { id, fin := true, buffer := ⟨wire⟩ }) hne hreads hwire rfl rfl rfl
    rfl rfl hpayload
  rw [hbs, Machine.run_singleton, ByteReceiver.feed_ok rfl, hdrain] at hv
  exact hv

/-- The end of the stream comes without bytes. -/
theorem receive_fin_alone (hne : headers ≠ []) (hreads : ({} : Qpack.Decoder).Reads b headers)
    (hwire : Frame.MessageWire b payloads wire) {bs : List Buffer} {last : Buffer}
    (hbs : bs.flatMap Buffer.bytes = wire) (hlast : last.bytes = []) :
    (receive f id (bs ++ [last])).2.1 = some (.error .malformedFrame) := by
  obtain ⟨-, hv, -⟩ := Receiver.run_bytes f (.ok (started id)) (stream id (bs ++ [last]))
  unfold receive
  rw [stream_concat] at hv ⊢
  cases bs with
  | nil =>
    obtain ⟨size, w, rest, hw, -, -, rfl⟩ := hwire
    exact absurd (List.append_eq_nil_iff.mp hbs.symm).1 hw.ne_nil
  | cons first bs =>
    have hopen : ∀ d ∈ events id (first :: bs), d.fin = false := fun d hd => fin_events hd
    have hwhole : eventBytes (events id (first :: bs)) = wire := (eventBytes_events id _).trans hbs
    have hahead : (started id).onBytes.Ahead ([] ++ (eventBytes (events id (first :: bs)) ++ [])) := by
      rw [hwhole, List.append_nil]
      exact ByteReceiver.started_ahead id hwire
    have hagree := ByteReceiver.run_events (f := f) { id, buffer := first } (events id bs) rfl hahead
      (fun d hd => hopen d (List.mem_of_mem_dropLast hd))
      (fun d hd hfin => absurd hfin (Bool.eq_false_iff.mp (hopen d hd)))
    have hjoin := (ByteReceiver.foldl_join { id, buffer := first } (events id bs)).2
    obtain ⟨os, r', hdrain, hs, hb, hfin⟩ := ByteReceiver.drain_whole_open (f := f)
      (r := (started id).onBytes.fed ((events id bs).foldl ByteReceiver.join { id, buffer := first }))
      hne hreads hwire rfl rfl rfl (hjoin.trans hwhole)
      (ByteReceiver.foldl_join_fin rfl fun d hd => fin_events hd)
    rw [Machine.run_singleton, ByteReceiver.feed_ok rfl, hdrain] at hagree
    rcases hrun : (ByteReceiver.machine f).run (.ok (started id).onBytes)
      ({ id, buffer := first } :: events id bs) with ⟨os', v, s⟩
    rw [hrun] at hagree
    obtain rfl : v = none := hagree.verdict_eq
    obtain rfl : s = .ok r' := hagree.state_eq rfl
    obtain ⟨os₂, s₂, hend⟩ := ByteReceiver.run_fin_alone (f := f) hs hb hfin id hlast
    have happend := Machine.run_append_wait hrun [{ id, fin := true, buffer := last }]
    rw [hend] at happend
    exact hv.trans (congrArg (fun x : Result _ Event _ => x.2.1) happend)

/-- **When a message is delivered**: if and only if the end of the stream rides on an event with bytes,
and no last payload is without any. -/
theorem delivers_iff (host : Host) (hne : headers ≠ [])
    (hrt : Qpack.RoundTrips host headers b) (hwire : Frame.MessageWire b payloads wire)
    {bs : List Buffer} (hbs : bs.flatMap Buffer.bytes = wire) :
    Delivered id headers payloads.flatten (receive f id bs) ↔
      (∀ last, bs.getLast? = some last → last.bytes ≠ []) ∧
        ∀ payload, payloads.getLast? = some payload → payload ≠ [] := by
  have hreads := hrt.reads
  rcases List.eq_nil_or_concat' bs with rfl | ⟨bs, last, rfl⟩
  · obtain ⟨size, w, rest, hw, -, -, rfl⟩ := hwire
    exact absurd (List.append_eq_nil_iff.mp hbs.symm).1 hw.ne_nil
  rw [List.flatMap_append, List.flatMap_singleton] at hbs
  rw [List.getLast?_concat]
  by_cases hlast : last.bytes = []
  · rw [hlast, List.append_nil] at hbs
    have hfail := receive_fin_alone f id hne hreads hwire hbs hlast
    refine ⟨fun h => ?_, fun h => absurd hlast (h.1 last rfl)⟩
    rw [h.2.2] at hfail
    cases hfail
  · by_cases hpayload : payloads.getLast? = some []
    · have hfail := receive_malformed f id hne hreads hwire hbs hlast hpayload
      refine ⟨fun h => ?_, fun h => absurd rfl (h.2 [] hpayload)⟩
      rw [h.2.2] at hfail
      cases hfail
    · have hne' : ∀ payload, payloads.getLast? = some payload → payload ≠ [] := by
        rintro payload hp rfl
        exact hpayload hp
      refine ⟨fun _ => ⟨fun l hl => ?_, hne'⟩, fun _ => ?_⟩
      · cases hl
        exact hlast
      · exact receive_delivers f id hne hreads hwire hbs hlast hne'

end Receive

/-- One header, whole in the static table. -/
def getHeader : Header := ⟨ascii ":method", ascii "GET"⟩

/-- Its block has three bytes. -/
theorem getHeader_roundTrips : Qpack.RoundTrips Qpack.xxHost [getHeader] [0, 0, 0xd1] :=
  ⟨⟨⟨.header, 3⟩, by decide⟩, ⟨.header, 3⟩, ⟨[]⟩, by decide, rfl⟩

/-- A HEADERS frame, and the end of the stream in an event of its own; a HEADERS frame and an empty
DATA frame, in one event with the end of the stream. -/
theorem delivers_not :
    (Frame.MessageWire [0, 0, 0xd1] [] [1, 3, 0, 0, 0xd1] ∧
      ¬ Delivered 0 [getHeader] [] (receive serverProcess 0 [⟨[1, 3, 0, 0, 0xd1]⟩, ⟨[]⟩])) ∧
    (Frame.MessageWire [0, 0, 0xd1] [[]] [1, 3, 0, 0, 0xd1, 0, 0] ∧
      ¬ Delivered 0 [getHeader] [] (receive serverProcess 0 [⟨[1, 3, 0, 0, 0xd1, 0, 0]⟩])) := by
  have hpre : Frame.Preamble .headers 3 [1, 3] := ⟨[1], [3], rfl, rfl, rfl⟩
  have halone : Frame.MessageWire [0, 0, 0xd1] [] [1, 3, 0, 0, 0xd1] :=
    ⟨3, [1, 3], [], hpre, rfl, .nil, rfl⟩
  have hempty : Frame.MessageWire [0, 0, 0xd1] [[]] [1, 3, 0, 0, 0xd1, 0, 0] :=
    ⟨3, [1, 3], [0, 0] ++ ([] ++ []), hpre, rfl, .cons ⟨[0], [0], rfl, rfl, rfl⟩ rfl .nil, rfl⟩
  have hreads := getHeader_roundTrips.reads
  refine ⟨⟨halone, fun h => ?_⟩, hempty, fun h => ?_⟩
  · have hfail := receive_fin_alone serverProcess 0 (List.cons_ne_nil getHeader []) hreads halone
      (show [(⟨[1, 3, 0, 0, 0xd1]⟩ : Buffer)].flatMap Buffer.bytes = _ from rfl)
      (show (⟨[]⟩ : Buffer).bytes = [] from rfl)
    exact nomatch h.2.2.symm.trans hfail
  · have hfail := receive_malformed serverProcess 0 (List.cons_ne_nil getHeader []) hreads hempty
      (show ([] : List Buffer).flatMap Buffer.bytes ++
        (⟨[1, 3, 0, 0, 0xd1, 0, 0]⟩ : Buffer).bytes = _ from rfl) nofun rfl
    exact nomatch h.2.2.symm.trans hfail

/-- A request with a body of two bytes, in two events. -/
theorem delivers_get :
    Delivered 0 [getHeader] [0x68, 0x69]
        (receive serverProcess 0 [⟨[1, 3, 0]⟩, ⟨[0, 0xd1, 0, 2, 0x68, 0x69]⟩]) ↔
      (∀ last, [(⟨[1, 3, 0]⟩ : Buffer), ⟨[0, 0xd1, 0, 2, 0x68, 0x69]⟩].getLast? = some last →
        last.bytes ≠ []) ∧
        ∀ payload, [[(0x68 : UInt8), 0x69]].getLast? = some payload → payload ≠ [] :=
  delivers_iff serverProcess 0 Qpack.xxHost (List.cons_ne_nil getHeader []) getHeader_roundTrips
    getWire_message rfl

end Bnl.Http3.Endpoint.Request
