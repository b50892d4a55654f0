import Bnl.Endpoint.Control
import Bnl.Laws.Chunking
import Bnl.Laws.FrameLocality

/-!
# Laws of `control::receiver`

The control stream is read frame by frame, so how it is cut into events shows nowhere: a frame that is not there
yet is waited for, and the unknown frames in front of it stay skipped. On byte lists every step of the receiver
goes on where the last one stopped (`processBytes_resumes`), and the loop around it, the one the request
receivers have, inherits that.

**The law** is `receive_irrelevant`, for both receivers and any bytes behind the type of the stream: two ways to
cut them give the same events and the same end. Its second half says what comes first: if, behind unknown
frames, the bytes begin with SETTINGS, the first event is the settings they carry, with the defaults for what
they do not say and the last value where they say something twice (`settingsOf`).

The observer is everything, where that of a request stream leaves out how a body is cut: here no answer grows
with the input.

A control stream that is ended is an error whatever came, and the events in `receive` do not end it. What the
type is the receiver does not look at, so the law asks that it be right.
-/

namespace Bnl.Http3.Endpoint.Control

open Incremental Bnl.Base
open Request (driver driver_simulation verdict verdict_eq_emit verdict_eq_wait verdict_eq_stop
  verdict_error received events eventBytes_events)

/-! ## The receiver on byte lists -/

/-- What a frame comes to, and the state behind it: settings at first, an error later. -/
def answer (f : ProcessFrame) (state : Receiver.State) (frame : Frame) :
    Except Error Event × Receiver.State :=
  match state, frame with
  | .active, .headers _ => (.error .wrongStream, .active)
  | .active, .data _ => (.error .wrongStream, .active)
  | .active, .pushPromise _ _ => (.error .wrongStream, .active)
  | .active, .duplicatePush _ => (.error .wrongStream, .active)
  | .active, .settings _ => (.error .unexpectedFrame, .active)
  | .active, frame => (f frame, .active)
  | _, .settings settings => (.ok (.settings settings), .active)
  | state, _ => (.error .missingSettings, state)

/-- A frame read off a byte list, and what it comes to. -/
def frameBytes (f : ProcessFrame) (state : Receiver.State) (b : List UInt8) :
    Except Error Event × Receiver.State × List UInt8 :=
  match Frame.decodeBytes b with
  | (.error error, rest) => (.error error, state, rest)
  | (.ok frame, rest) => ((answer f state frame).1, (answer f state frame).2, rest)

/-- `process` on a byte list. -/
def processBytes (f : ProcessFrame) (state : Receiver.State) (b : List UInt8) :
    Except Error Event × Receiver.State × List UInt8 :=
  match state with
  | .type =>
    match Varint.parser b with
    | .error error => (.error error, .type, b)
    | .ok (_, rest) => frameBytes f .settings rest
  | .settings => frameBytes f .settings b
  | .active => frameBytes f .active b

/-- Both endpoints have an error for every frame the control stream may carry, and do not wait. -/
def Refuses (f : ProcessFrame) : Prop := ∀ frame, ∃ error, f frame = .error error ∧ error ≠ .incomplete

/-- The server has an error for each. -/
theorem serverProcess_refuses : Refuses serverProcess := by
  intro frame
  cases frame <;> exact ⟨_, rfl, nofun⟩

theorem clientProcess_refuses : Refuses clientProcess := by
  intro frame
  cases frame <;> exact ⟨_, rfl, nofun⟩

/-- A frame is never answered by waiting. -/
theorem answer_ne {f : ProcessFrame} (hf : Refuses f) (state : Receiver.State) (frame : Frame) :
    (answer f state frame).1 ≠ .error .incomplete := by
  intro h
  unfold answer at h
  split at h
  all_goals first
    | cases h
    | obtain ⟨error, hframe, hne⟩ := hf frame
      exact hne (Except.error.inj (hframe.symm.trans h))

section Frames

variable {f : ProcessFrame} {state : Receiver.State} {b rest : List UInt8}

theorem frameBytes_error {e : Error} (h : Frame.decodeBytes b = (.error e, rest)) :
    frameBytes f state b = (.error e, state, rest) := by
  unfold frameBytes
  rw [h]

theorem frameBytes_ok {frame : Frame} (h : Frame.decodeBytes b = (.ok frame, rest)) :
    frameBytes f state b = ((answer f state frame).1, (answer f state frame).2, rest) := by
  unfold frameBytes
  rw [h]

/-- A frame that was read is read again with more bytes; one that was not is waited for. -/
theorem frameBytes_resumes (hf : Refuses f) (state : Receiver.State) (b c : List UInt8) :
    (∀ {a state' rest}, frameBytes f state b = (.ok a, state', rest) →
      frameBytes f state (b ++ c) = (.ok a, state', rest ++ c)) ∧
    (∀ {state' rest}, frameBytes f state b = (.error .incomplete, state', rest) →
      state' = state ∧ frameBytes f state (b ++ c) = frameBytes f state (rest ++ c)) ∧
    ∀ {e state' rest}, frameBytes f state b = (.error e, state', rest) → e ≠ .incomplete →
      (frameBytes f state (b ++ c)).1 = .error e := by
  match hd : Frame.decodeBytes b with
  | (.error e, rest) =>
    rw [frameBytes_error hd]
    refine ⟨nofun, fun h => ?_, fun h hne => ?_⟩
    · cases h
      refine ⟨rfl, ?_⟩
      unfold frameBytes
      rw [Frame.decodeBytes_append_short hd]
    · cases h
      have hlong := Frame.decodeBytes_append_error hd hne c
      rcases hd' : Frame.decodeBytes (b ++ c) with ⟨r, rest'⟩
      rw [hd'] at hlong
      obtain rfl : r = .error e := hlong
      rw [frameBytes_error hd']
  | (.ok frame, rest) =>
    rw [frameBytes_ok hd, frameBytes_ok (Frame.decodeBytes_append_ok hd c)]
    refine ⟨fun h => ?_, fun h => ?_, fun h _ => ?_⟩
    · obtain ⟨ha, hrest⟩ := Prod.mk.inj h
      obtain ⟨hs, rfl⟩ := Prod.mk.inj hrest
      rw [ha, hs]
    · exact absurd (Prod.mk.inj h).1 (answer_ne hf state frame)
    · exact (Prod.mk.inj h).1

/-- A frame that is answered with an event took bytes. -/
theorem frameBytes_lt {event : Event} {state' : Receiver.State}
    (h : frameBytes f state b = (.ok event, state', rest)) : rest.length < b.length := by
  match hd : Frame.decodeBytes b with
  | (.error e, rest') =>
    rw [frameBytes_error hd] at h
    cases h
  | (.ok frame, rest') =>
    rw [frameBytes_ok hd] at h
    obtain ⟨-, hs⟩ := Prod.mk.inj h
    obtain ⟨-, rfl⟩ := Prod.mk.inj hs
    exact Frame.decodeBytes_lt hd

end Frames

/-- **`process` goes on where it stopped**, whatever bytes follow. -/
theorem processBytes_resumes {f : ProcessFrame} (hf : Refuses f) (state : Receiver.State)
    (b c : List UInt8) : Resumes .incomplete (processBytes f) state b c := by
  have hframe (state : Receiver.State) (hs : state ≠ .type) (b : List UInt8) :
      processBytes f state b = frameBytes f state b := by
    cases state with
    | type => exact absurd rfl hs
    | settings => rfl
    | active => rfl
  have hkeeps (state : Receiver.State) (hs : state ≠ .type) (b : List UInt8) :
      Resumes .incomplete (processBytes f) state b c := by
    obtain ⟨hok, hshort, herror⟩ := frameBytes_resumes hf state b c
    constructor
    · intro a state' rest h
      rw [hframe state hs] at h ⊢
      exact hok h
    · intro state' rest h
      rw [hframe state hs] at h ⊢
      obtain ⟨rfl, heq⟩ := hshort h
      rw [hframe state' hs]
      exact heq
    · intro e state' rest h hne
      rw [hframe state hs] at h ⊢
      exact herror h hne
  cases state with
  | settings => exact hkeeps .settings nofun b
  | active => exact hkeeps .active nofun b
  | type =>
    cases hv : Varint.parser b with
    | error e =>
      obtain rfl := Varint.parser_patient b e hv
      have hb : processBytes f .type b = (.error .incomplete, .type, b) := by
        unfold processBytes
        rw [hv]
      refine ⟨fun h => ?_, fun h => ?_, fun h hne => ?_⟩
      · rw [hb] at h
        cases h
      · rw [hb] at h
        cases h
        rfl
      · rw [hb] at h
        exact absurd (Except.error.inj (Prod.mk.inj h).1).symm hne
    | ok q =>
      obtain ⟨v, rest⟩ := q
      have hb : processBytes f .type b = processBytes f .settings rest := by
        unfold processBytes
        rw [hv]
      have hbc : processBytes f .type (b ++ c) = processBytes f .settings (rest ++ c) := by
        unfold processBytes
        rw [Varint.parser_stable.append_ok hv c]
      have hnext := hkeeps .settings nofun rest
      refine ⟨fun h => ?_, fun h => ?_, fun h hne => ?_⟩
      · rw [hb] at h
        rw [hbc]
        exact hnext.ok h
      · rw [hb] at h
        rw [hbc]
        exact hnext.short h
      · rw [hb] at h
        rw [hbc]
        exact hnext.error h hne

theorem processBytes_lt {f : ProcessFrame} {state state' : Receiver.State} {b rest : List UInt8}
    {event : Event} (h : processBytes f state b = (.ok event, state', rest)) :
    rest.length < b.length := by
  cases state with
  | settings => exact frameBytes_lt (show frameBytes f .settings b = _ from h)
  | active => exact frameBytes_lt h
  | type =>
    unfold processBytes at h
    cases hv : Varint.parser b with
    | error e =>
      rw [hv] at h
      cases h
    | ok q =>
      rw [hv] at h
      exact Nat.lt_trans (frameBytes_lt h) (Varint.parser_lt hv)

/-! ## The loop around the receiver -/

/-- A receiver with a byte list for its buffers. -/
structure ByteReceiver where
  state : Receiver.State := .type
  bytes : List UInt8 := []
  deriving DecidableEq

namespace ByteReceiver

/-- `recv` on a byte list. -/
def recv (r : ByteReceiver) (data : Quic.Data) : Except Error Unit × ByteReceiver :=
  if data.fin then (.error .closedCriticalStream, r)
  else (.ok (), { r with bytes := r.bytes ++ data.buffer.bytes })

/-- `process` on a byte list. -/
def process (f : ProcessFrame) (r : ByteReceiver) : Except Error Event × ByteReceiver :=
  let (answer, state, bytes) := processBytes f r.state r.bytes
  (answer, { state, bytes })

/-- The call on the receiver is that on its state and bytes. -/
theorem process_eq {f : ProcessFrame} {r r' : ByteReceiver} {answer : Except Error Event} :
    r.process f = (answer, r') ↔
      processBytes f r.state r.bytes = (answer, r'.state, r'.bytes) := by
  unfold process
  rcases processBytes f r.state r.bytes with ⟨a, state, bytes⟩
  constructor
  · intro h
    cases h
    rfl
  · intro h
    obtain ⟨rfl, hrest⟩ := Prod.mk.inj h
    obtain ⟨rfl, rfl⟩ := Prod.mk.inj hrest
    rfl

/-- The receiver matters by what `processBytes` says of it. -/
theorem process_congr {f : ProcessFrame} {r r' : ByteReceiver}
    (h : processBytes f r.state r.bytes = processBytes f r'.state r'.bytes) :
    r.process f = r'.process f := by
  unfold process
  rw [h]

theorem process_lt {f : ProcessFrame} {r r' : ByteReceiver} {event : Event}
    (h : r.process f = (.ok event, r')) (_ : ∀ id, event ≠ .finished id) :
    r'.bytes.length < r.bytes.length := processBytes_lt (process_eq.mp h)

/-- The loop around a receiver on byte lists. -/
def machine (f : ProcessFrame) :
    Machine (Except Error ByteReceiver) Quic.Data Event (Except Error Unit) :=
  driver recv (process f) (fun r => r.bytes.length) process_lt

end ByteReceiver

namespace Receiver

/-- The receiver with its buffers put together. -/
def onBytes (r : Receiver) : ByteReceiver := { state := r.state, bytes := r.buffers.bytes }

/-- `recv` keeps the bytes in a row. -/
theorem recv_bytes (r : Receiver) (data : Quic.Data) :
    ((r.recv data).1, (r.recv data).2.onBytes) = r.onBytes.recv data := by
  unfold recv ByteReceiver.recv
  split
  · rfl
  · have hpush : (r.buffers.push data.buffer).bytes = r.onBytes.bytes ++ data.buffer.bytes :=
      Buffers.push_bytes r.buffers data.buffer
    rw [← hpush]
    rfl

/-- **`process` sees nothing of the buffers but their bytes.** -/
theorem process_bytes (f : ProcessFrame) (r : Receiver) :
    ((process f r).1, (process f r).2.onBytes) = ByteReceiver.process f r.onBytes := by
  have hsettings (buffers : Buffers) : ∀ id,
      ((processSettings { state := .settings, buffers, id }).1,
        (processSettings { state := .settings, buffers, id }).2.onBytes) =
      ByteReceiver.process f { state := .settings, bytes := buffers.bytes } := by
    intro id
    have hdec : Frame.decodeBytes buffers.bytes = _ := (Frame.decode_bytes buffers).symm
    unfold processSettings ByteReceiver.process processBytes frameBytes
    dsimp only
    rw [hdec]
    rcases Frame.decode buffers with ⟨e | frame, s⟩
    · rfl
    · cases frame <;> rfl
  obtain ⟨state, buffers, id⟩ := r
  cases state with
  | settings => exact hsettings buffers id
  | active =>
    have hdec : Frame.decodeBytes buffers.bytes = _ := (Frame.decode_bytes buffers).symm
    unfold process processActive ByteReceiver.process processBytes frameBytes onBytes
    dsimp only
    rw [hdec]
    rcases Frame.decode buffers with ⟨e | frame, s⟩
    · rfl
    · cases frame <;> rfl
  | type =>
    have hv := Varint.decode_eq buffers
    unfold process
    dsimp only
    rw [hv]
    cases hp : Varint.parser buffers.bytes with
    | error e =>
      rw [Sequence.read_error hp]
      unfold ByteReceiver.process processBytes onBytes
      dsimp only
      rw [hp]
    | ok q =>
      obtain ⟨v, rest⟩ := q
      have hrest := Sequence.read_rest (s := buffers) Varint.parser_stable hp
      rcases hr : Sequence.read Varint.parser buffers with ⟨a, s⟩
      rw [hr] at hrest
      have ha := congrArg Prod.fst ((Sequence.read_ok (s := buffers) hp).symm.trans hr)
      obtain rfl : .ok v = a := ha
      obtain rfl : s.bytes = rest := hrest
      have hb : ByteReceiver.process f { state := .type, bytes := buffers.bytes } =
          ByteReceiver.process f { state := .settings, bytes := s.bytes } := by
        unfold ByteReceiver.process processBytes
        dsimp only
        rw [hp]
      exact (hsettings s id).trans hb.symm

/-- An event takes bytes, on buffers. -/
theorem process_lt {f : ProcessFrame} {r r' : Receiver} {event : Event}
    (h : r.process f = (.ok event, r')) (hfin : ∀ id, event ≠ .finished id) :
    r'.onBytes.bytes.length < r.onBytes.bytes.length := by
  have hb := r.process_bytes f
  rw [h] at hb
  exact ByteReceiver.process_lt hb.symm hfin

/-- The loop around a receiver. -/
def machine (f : ProcessFrame) :
    Machine (Except Error Receiver) Quic.Data Event (Except Error Unit) :=
  driver recv (process f) (fun r => r.onBytes.bytes.length) process_lt

/-- The two loops go together. -/
theorem simulation (f : ProcessFrame) :
    Machine.Simulation (machine f) (ByteReceiver.machine f) fun s t => t = s.map onBytes :=
  driver_simulation onBytes recv_bytes (process_bytes f)

end Receiver

/-! ## The cuts do not matter -/

/-- Everything is seen: no output is joined to another or lost. -/
def observer : Machine.Observer Event (Except Error Unit) (List Event) (List Event) where
  view os := os
  fine os := os
  failed _ := False
  view_append ha hb := by rw [ha, hb]
  fine_append ha hb := by rw [ha, hb]

namespace ByteReceiver

variable {f : ProcessFrame}

/-- A receiver with more bytes. -/
def fed (r : ByteReceiver) (data : Quic.Data) : ByteReceiver :=
  { r with bytes := r.bytes ++ data.buffer.bytes }

/-- The loop takes an event in that does not end the stream. -/
theorem feed_ok (r : ByteReceiver) {data : Quic.Data} (h : data.fin = false) :
    (machine f).feed (.ok r) data = .ok (r.fed data) := by
  show received (r.recv data) = _
  unfold recv
  rw [h]
  rfl

/-- The loop goes on, and so does the stream. -/
def Good (s : Except Error ByteReceiver) (data : Quic.Data) : Prop :=
  (∃ r, s = .ok r) ∧ data.fin = false

/-- **The receiver absorbs events**: a step taken before an event is taken with it. -/
theorem absorbs (hf : Refuses f) :
    Machine.Absorbs (machine f) Request.ByteReceiver.join observer Good := by
  have hstep (r : ByteReceiver) :
      (machine f).step (.ok r) = (verdict (r.process f).1, .ok (r.process f).2) := rfl
  have hanswer {r : ByteReceiver} {a : Except Error Event} (h : (r.process f).1 = a) :
      processBytes f r.state r.bytes = (a, (r.process f).2.state, (r.process f).2.bytes) :=
    process_eq.mp (Prod.ext h rfl)
  constructor
  · rintro (e | r) c d ⟨⟨r', hr'⟩, hd⟩
    · cases hr'
    · cases hc : c.fin with
      | true =>
        have hfeed : (machine f).feed (.ok r) c = .error .closedCriticalStream := by
          show received (r.recv c) = _
          unfold recv
          rw [hc]
          rfl
        rw [hfeed] at hr'
        cases hr'
      | false =>
        rw [feed_ok r hc, feed_ok _ hd, feed_ok r (show (Request.ByteReceiver.join c d).fin = false from hd)]
        unfold fed Request.ByteReceiver.join
        rw [List.append_assoc]
  · rintro _ s' c ⟨⟨r, rfl⟩, hc⟩ hs
    rw [hstep] at hs
    obtain ⟨hw, rfl⟩ := Prod.mk.inj hs
    refine ⟨⟨⟨_, rfl⟩, hc⟩, ?_⟩
    have hres := processBytes_resumes hf r.state r.bytes c.buffer.bytes
    have heq := hres.short (hanswer (verdict_eq_wait hw))
    rw [feed_ok r hc, feed_ok _ hc, hstep, hstep]
    have hsame : process f (r.fed c) = process f (fed (r.process f).2 c) := process_congr heq
    rw [hsame]
  · rintro _ s' c v ⟨⟨r, rfl⟩, hc⟩ hs
    rw [hstep] at hs
    have hres := processBytes_resumes hf r.state r.bytes c.buffer.bytes
    rw [feed_ok r hc, hstep]
    rcases verdict_eq_stop (Prod.mk.inj hs).1 with ⟨id, hr, rfl⟩ | ⟨e, hr, hne, rfl⟩
    · have hsame : process f (r.fed c) = (.ok (.finished id), fed (r.process f).2 c) :=
        process_eq.mpr (hres.ok (hanswer hr))
      rw [hsame]
      exact ⟨_, rfl⟩
    · have hsame : (process f (r.fed c)).1 = .error e := hres.error (hanswer hr) hne
      rw [hsame, verdict_error hne]
      exact ⟨_, rfl⟩
  · rintro _ s' c o ⟨⟨r, rfl⟩, hc⟩ hs
    rw [hstep] at hs
    obtain ⟨ho, rfl⟩ := Prod.mk.inj hs
    refine ⟨⟨⟨_, rfl⟩, hc⟩, .inl ?_⟩
    have hr := (verdict_eq_emit ho).1
    have hres := processBytes_resumes hf r.state r.bytes c.buffer.bytes
    have hsame : process f (r.fed c) = (.ok o, fed (r.process f).2 c) :=
      process_eq.mpr (hres.ok (hanswer hr))
    rw [feed_ok r hc, feed_ok _ hc, hstep, hsame, ← hr, ho]

/-- Events that do not end the stream meet the side conditions all along. -/
theorem goodAll (r : ByteReceiver) {c : Quic.Data} {cs : List Quic.Data} (hc : c.fin = false)
    (hcs : ∀ d ∈ cs, d.fin = false) :
    Machine.GoodAll (machine f) Request.ByteReceiver.join Good (.ok r) c cs := by
  induction cs generalizing c with
  | nil => exact trivial
  | cons d ds ih =>
    have hd := hcs d List.mem_cons_self
    refine ⟨⟨⟨_, feed_ok r hc⟩, hd⟩, ?_⟩
    exact ih (c := Request.ByteReceiver.join c d) hd fun e he => hcs e (List.mem_cons_of_mem _ he)

/-- **A stream is received as if it came at once.** -/
theorem run_events (hf : Refuses f) (r : ByteReceiver) (id : UInt64) (b : Buffer)
    (bs : List Buffer) :
    Machine.Agree observer ((machine f).run (.ok r) (events id (b :: bs)))
      ((machine f).drain (.ok { r with bytes := r.bytes ++ (b :: bs).flatMap Buffer.bytes })) := by
  have hfin : ∀ d ∈ events id bs, d.fin = false := fun d hd => Request.fin_events hd
  have hrun := (absorbs hf).run_join (goodAll r (c := { id, buffer := b }) rfl hfin)
  rw [Machine.run_singleton, feed_ok r (Request.ByteReceiver.foldl_join_fin rfl hfin)] at hrun
  have hbytes := (Request.ByteReceiver.foldl_join { id, buffer := b } (events id bs)).2
  rw [eventBytes_events] at hbytes
  unfold fed at hrun
  rw [hbytes] at hrun
  exact hrun

end ByteReceiver

/-! ## What comes first -/

/-- Bytes of a whole frame whose type is none of the known ones. -/
def UnknownFrame (u : List UInt8) : Prop :=
  ∃ (t l p : List UInt8) (type n : UInt64), Varint.Encodes t type ∧ Frame.FrameType.ofValue type = none ∧
    Varint.Encodes l n ∧ p.length = n.toNat ∧ u = t ++ (l ++ p)

/-- Bytes of a whole SETTINGS frame that carries `settings`. -/
def SettingsFrame (b : List UInt8) (settings : List (UInt64 × UInt64)) : Prop :=
  ∃ (t l p : List UInt8) (n : UInt64), Varint.Encodes t Frame.FrameType.settings.value ∧
    Varint.Encodes l n ∧ p.length = n.toNat ∧ Frame.SettingsPayload p settings ∧ b = t ++ (l ++ p)

/-- The value that stands last under an identifier. -/
def lastValue (id : UInt64) (settings : List (UInt64 × UInt64)) : Option UInt64 :=
  settings.reverse.lookup id

/-- What a list of settings says, and the defaults for what it does not say. -/
def settingsOf (settings : List (UInt64 × UInt64)) : Settings where
  maxHeaderListSize :=
    (lastValue Setting.maxHeaderListSize settings).getD ({} : Settings).maxHeaderListSize
  numPlaceholders := (lastValue Setting.numPlaceholders settings).getD ({} : Settings).numPlaceholders
  qpackMaxTableCapacity :=
    (lastValue Setting.qpackMaxTableCapacity settings).getD ({} : Settings).qpackMaxTableCapacity
  qpackBlockedStreams :=
    (lastValue Setting.qpackBlockedStreams settings).getD ({} : Settings).qpackBlockedStreams

/-- A setting that comes last is the last. -/
theorem lastValue_concat (id : UInt64) (settings : List (UInt64 × UInt64))
    (setting : UInt64 × UInt64) :
    lastValue id (settings ++ [setting]) =
      if id = setting.1 then some setting.2 else lastValue id settings := by
  unfold lastValue
  rw [List.reverse_append, List.reverse_singleton, List.singleton_append, List.lookup_cons]
  by_cases h : id = setting.1
  · rw [if_pos h, beq_iff_eq.mpr h]
  · rw [if_neg h, beq_eq_false_iff_ne.mpr h]

/-- **Applied one after another, the settings come to their last values.** -/
theorem applySettings_eq (settings : List (UInt64 × UInt64)) :
    Frame.applySettings settings {} = settingsOf settings := by
  induction settings using List.reverseRecOn with
  | nil => rfl
  | append_singleton settings setting ih =>
    have hlast : Frame.applySettings (settings ++ [setting]) {} =
        Frame.updateSettings (Frame.applySettings settings {}) setting.1 setting.2 :=
      List.foldl_concat ..
    rw [hlast, ih]
    unfold settingsOf Frame.updateSettings
    simp only [lastValue_concat]
    obtain ⟨id, value⟩ := setting
    by_cases h₁ : id = Setting.maxHeaderListSize
    · subst h₁
      rfl
    by_cases h₂ : id = Setting.numPlaceholders
    · subst h₂
      rfl
    by_cases h₃ : id = Setting.qpackMaxTableCapacity
    · subst h₃
      rfl
    by_cases h₄ : id = Setting.qpackBlockedStreams
    · subst h₄
      rfl
    rw [if_neg h₁, if_neg h₂, if_neg h₃, if_neg h₄, if_neg (Ne.symm h₁), if_neg (Ne.symm h₂),
      if_neg (Ne.symm h₃), if_neg (Ne.symm h₄)]

/-- An unknown frame is stepped over. -/
theorem decodeBytes_unknown {u : List UInt8} (h : UnknownFrame u) (rest : List UInt8) :
    Frame.decodeBytes (u ++ rest) = Frame.decodeBytes rest := by
  obtain ⟨t, l, p, type, n, ht, htype, hl, hp, rfl⟩ := h
  refine Frame.decodeBytes_none ?_
  unfold Frame.single
  rw [List.append_assoc, List.append_assoc,
    Parser.bind_ok (Varint.parser_stable.append_ok ht.parser _), List.nil_append,
    Parser.bind_ok (Varint.parser_stable.append_ok hl.parser _), List.nil_append]
  unfold Frame.body
  rw [htype]
  dsimp only
  rw [← hp, Parser.bind_ok Parser.take_append]
  rfl

theorem decodeBytes_unknowns {us : List (List UInt8)} (h : ∀ u ∈ us, UnknownFrame u)
    (rest : List UInt8) : Frame.decodeBytes (us.flatten ++ rest) = Frame.decodeBytes rest := by
  induction us with
  | nil => rfl
  | cons u us ih =>
    rw [List.flatten_cons, List.append_assoc, decodeBytes_unknown (h u List.mem_cons_self)]
    exact ih fun v hv => h v (List.mem_cons_of_mem _ hv)

/-- A SETTINGS frame is read as the settings it carries. -/
theorem decodeBytes_settings {b : List UInt8} {settings : List (UInt64 × UInt64)}
    (h : SettingsFrame b settings) (rest : List UInt8) :
    Frame.decodeBytes (b ++ rest) = (.ok (.settings (settingsOf settings)), rest) := by
  obtain ⟨t, l, p, n, ht, hl, hp, hpayload, rfl⟩ := h
  refine Frame.decodeBytes_some ?_
  have hsize : 0 + p.length = n.toNat := by rw [Nat.zero_add, hp]
  have hloop := Frame.settings_loop hpayload hsize {} rest
  have hread : Frame.payload .settings n (p ++ rest) =
      .ok ((.settings (settingsOf settings), n), rest) := by
    rw [← applySettings_eq]
    exact Parser.bind_ok hloop
  rw [Frame.single_split ht hl, Parser.bind_ok (Parser.measure_ok hread), List.length_append,
    Nat.add_sub_cancel]
  unfold Frame.checkSize
  rw [if_neg (not_not.mpr hp)]
  rfl

/-! ## The control stream -/

/-- The control stream of an endpoint as it is received: the events, and the error if one ended it. -/
def receive (f : ProcessFrame) (id : UInt64) (bs : List Buffer) :
    List Event × Option (Except Error Unit) :=
  (((Receiver.machine f).run (.ok { id }) (events id bs)).1,
    ((Receiver.machine f).run (.ok { id }) (events id bs)).2.1)

/-- What comes of all the bytes at once. -/
def receiveBytes (f : ProcessFrame) (wire : List UInt8) : List Event × Option (Except Error Unit) :=
  (((ByteReceiver.machine f).drain (.ok { bytes := wire })).1,
    ((ByteReceiver.machine f).drain (.ok { bytes := wire })).2.1)

/-- The events come to what all the bytes at once come to. -/
theorem receive_eq {f : ProcessFrame} (hf : Refuses f) (id : UInt64) {bs : List Buffer}
    (hbs : bs ≠ []) : receive f id bs = receiveBytes f (bs.flatMap Buffer.bytes) := by
  obtain ⟨b, bs, rfl⟩ := List.exists_cons_of_ne_nil hbs
  obtain ⟨hos, hv, -⟩ := (Receiver.simulation f).run_eq (s := .ok { id }) rfl (events id (b :: bs))
  have hrun := ByteReceiver.run_events hf {} id b bs
  exact Prod.ext (hos.trans hrun.view_eq) (hv.trans hrun.verdict_eq)

/-- The settings come out first, behind whatever unknown frames there are. -/
theorem receiveBytes_settings (f : ProcessFrame) {t b : List UInt8} {us : List (List UInt8)}
    {settings : List (UInt64 × UInt64)} (ht : Varint.Encodes t Control.type)
    (hus : ∀ u ∈ us, UnknownFrame u) (hb : SettingsFrame b settings) (after : List UInt8) :
    (receiveBytes f (t ++ (us.flatten ++ (b ++ after)))).1.head? =
      some (.settings (settingsOf settings)) := by
  have hdecode := (decodeBytes_unknowns hus (b ++ after)).trans (decodeBytes_settings hb after)
  have hprocess : ByteReceiver.process f { bytes := t ++ (us.flatten ++ (b ++ after)) } =
      (.ok (.settings (settingsOf settings)), { state := .active, bytes := after }) := by
    refine ByteReceiver.process_eq.mpr ?_
    unfold processBytes
    dsimp only
    rw [Varint.parser_stable.append_ok ht.parser, List.nil_append]
    exact frameBytes_ok hdecode
  have hstep : (ByteReceiver.machine f).step (.ok { bytes := t ++ (us.flatten ++ (b ++ after)) }) =
      (.emit (.settings (settingsOf settings)), .ok { state := .active, bytes := after }) := by
    show (verdict (ByteReceiver.process f _).1, Except.ok (ByteReceiver.process f _).2) = _
    rw [hprocess]
    rfl
  unfold receiveBytes
  rw [Machine.drain_emit hstep]
  rfl

/-- **How the control stream is cut does not matter**, for either endpoint, and the settings of the
peer come first. -/
theorem receive_irrelevant {f : ProcessFrame} (hf : f = clientProcess ∨ f = serverProcess)
    (id : UInt64) {t wire : List UInt8} (ht : Varint.Encodes t Control.type) {bs bs' : List Buffer}
    (hbs : bs.flatMap Buffer.bytes = t ++ wire) (hbs' : bs'.flatMap Buffer.bytes = t ++ wire) :
    receive f id bs = receive f id bs' ∧
      ∀ (us : List (List UInt8)) (b after : List UInt8) (settings : List (UInt64 × UInt64)),
        (∀ u ∈ us, UnknownFrame u) → SettingsFrame b settings →
          wire = us.flatten ++ (b ++ after) →
            (receive f id bs).1.head? = some (.settings (settingsOf settings)) := by
  have hrefuses : Refuses f := by
    rcases hf with rfl | rfl
    · exact clientProcess_refuses
    · exact serverProcess_refuses
  have hne {bs : List Buffer} (h : bs.flatMap Buffer.bytes = t ++ wire) : bs ≠ [] := by
    rintro rfl
    have hnil := (List.append_eq_nil_iff.mp h.symm).1
    subst hnil
    cases ht.parser
  have hall := receive_eq hrefuses id (hne hbs)
  rw [hbs] at hall
  refine ⟨?_, fun us b after settings hus hb hwire => ?_⟩
  · rw [hall, receive_eq hrefuses id (hne hbs'), hbs']
  · rw [hall, hwire]
    exact receiveBytes_settings f ht hus hb after

/-- A reserved frame and settings, cut inside both, are received as when they come at once. -/
theorem receive_irrelevant_reserved :
    receive clientProcess 3 [⟨[0x00, 0x21]⟩, ⟨[0x01, 0xff, 0x04, 0x02, 0x06]⟩, ⟨[0x05]⟩] =
        receive clientProcess 3 [⟨[0x00, 0x21, 0x01, 0xff, 0x04, 0x02, 0x06, 0x05]⟩] ∧
      (receive clientProcess 3
        [⟨[0x00, 0x21]⟩, ⟨[0x01, 0xff, 0x04, 0x02, 0x06]⟩, ⟨[0x05]⟩]).1.head? =
          some (.settings { maxHeaderListSize := 5 }) := by
  have ht : Varint.Encodes [0x00] Control.type := rfl
  have hcut : [⟨[0x00, 0x21]⟩, ⟨[0x01, 0xff, 0x04, 0x02, 0x06]⟩, ⟨[0x05]⟩].flatMap Buffer.bytes =
      [0x00] ++ [0x21, 0x01, 0xff, 0x04, 0x02, 0x06, 0x05] := rfl
  have hwhole : [⟨[0x00, 0x21, 0x01, 0xff, 0x04, 0x02, 0x06, 0x05]⟩].flatMap Buffer.bytes =
      [0x00] ++ [0x21, 0x01, 0xff, 0x04, 0x02, 0x06, 0x05] := rfl
  obtain ⟨hsame, hfirst⟩ := receive_irrelevant (.inl rfl) 3 ht hcut hwhole
  refine ⟨hsame, hfirst [[0x21, 0x01, 0xff]] [0x04, 0x02, 0x06, 0x05] [] [(6, 5)] ?_ ?_ rfl⟩
  · intro u hu
    obtain rfl := List.mem_singleton.mp hu
    exact ⟨[0x21], [0x01], [0xff], 0x21, 1, rfl, rfl, rfl, rfl, rfl⟩
  · refine ⟨[0x04], [0x02], [0x06, 0x05], 2, rfl, rfl, rfl, ?_, rfl⟩
    exact .cons (i := [0x06]) (v := [0x05]) (p := []) rfl rfl .nil

end Bnl.Http3.Endpoint.Control
