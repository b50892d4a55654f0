import Bnl.Codec.Qpack.DecodeGenerated
import Bnl.Codec.Qpack.EncodeGenerated
import Bnl.Codec.Xxh64
import Bnl.Library.Bytes

/-!
# One static table behind three switches

The generator script writes the encoder's switch and the decoder's two from one table, `entries`. Here each
switch is led back to it: the decoder's answer what the table says, index by index, and the encoder's compares a
header with the table, by hash.

The encoder sees nothing of a string but its hash. What it answers is right as long as no string it is asked
about has the hash of a table string without being that string, `NoCollision`.

**The laws** are `switches_agree` and `nameCases_ok`, and they are found by evaluation: 99 indices on one side,
the cases with their hashes on the other, each hash computed from the string the table has there. What follows
by argument is that a lookup finds the case it should: no hash stands twice (`find_of_nodup`), so the first case
that is found is the only one.

No other string is spoken of. Which strings share a hash with one of the table is not known; that there are some
is.
-/

namespace Bnl.Http3.Qpack.Table.Fixed

/-- The static table of the generator script, in order of index. -/
def entries : List (String × String) := [
  (":authority", ""), (":path", "/"), ("age", "0"), ("content-disposition", ""),
  ("content-length", "0"), ("cookie", ""), ("date", ""), ("etag", ""), ("if-modified-since", ""),
  ("if-none-match", ""), ("last-modified", ""), ("link", ""), ("location", ""), ("referer", ""),
  ("set-cookie", ""), (":method", "CONNECT"), (":method", "DELETE"), (":method", "GET"),
  (":method", "HEAD"), (":method", "OPTIONS"), (":method", "POST"), (":method", "PUT"),
  (":scheme", "http"), (":scheme", "https"), (":status", "103"), (":status", "200"),
  (":status", "304"), (":status", "404"), (":status", "503"), ("accept", "*/*"),
  ("accept", "application/dns-message"), ("accept-encoding", "gzip, deflate, br"),
  ("accept-ranges", "bytes"), ("access-control-allow-headers", "cache-control"),
  ("access-control-allow-headers", "content-type"), ("access-control-allow-origin", "*"),
  ("cache-control", "max-age=0"), ("cache-control", "max-age=2592000"),
  ("cache-control", "max-age=604800"), ("cache-control", "no-cache"), ("cache-control", "no-store"),
  ("cache-control", "public, max-age=31536000"), ("content-encoding", "br"),
  ("content-encoding", "gzip"), ("content-type", "application/dns-message"),
  ("content-type", "application/javascript"), ("content-type", "application/json"),
  ("content-type", "application/x-www-form-urlencoded"), ("content-type", "image/gif"),
  ("content-type", "image/jpeg"), ("content-type", "image/png"), ("content-type", "text/css"),
  ("content-type", "text/html; charset=utf-8"), ("content-type", "text/plain"),
  ("content-type", "text/plain;charset=utf-8"), ("range", "bytes=0-"),
  ("strict-transport-security", "max-age=31536000"),
  ("strict-transport-security", "max-age=31536000; includesubdomains"),
  ("strict-transport-security", "max-age=31536000; includesubdomains; preload"),
  ("vary", "accept-encoding"), ("vary", "origin"), ("x-content-type-options", "nosniff"),
  ("x-xss-protection", "1; mode=block"), (":status", "100"), (":status", "204"), (":status", "206"),
  (":status", "302"), (":status", "400"), (":status", "403"), (":status", "421"),
  (":status", "425"), (":status", "500"), ("accept-language", ""),
  ("access-control-allow-credentials", "FALSE"), ("access-control-allow-credentials", "TRUE"),
  ("access-control-allow-headers", "*"), ("access-control-allow-methods", "get"),
  ("access-control-allow-methods", "get, post, options"),
  ("access-control-allow-methods", "options"), ("access-control-expose-headers", "content-length"),
  ("access-control-request-headers", "content-type"), ("access-control-request-method", "get"),
  ("access-control-request-method", "post"), ("alt-svc", "clear"), ("authorization", ""),
  ("content-security-policy", "script-src 'none'; object-src 'none'; base-uri 'none'"),
  ("early-data", "1"), ("expect-ct", ""), ("forwarded", ""), ("if-range", ""), ("origin", ""),
  ("purpose", "prefetch"), ("server", ""), ("timing-allow-origin", "*"),
  ("upgrade-insecure-requests", "1"), ("user-agent", ""), ("x-forwarded-for", ""),
  ("x-frame-options", "deny"), ("x-frame-options", "sameorigin")]

/-- The header at an index of the static table. -/
def entry (index : Nat) : Option Header := entries[index]?.map fun e => ⟨ascii e.1, ascii e.2⟩

theorem entry_lt {index : Nat} {e : Header} (h : entry index = some e) : index < 99 := by
  obtain ⟨_, hget, -⟩ := Option.map_eq_some_iff.mp h
  exact (List.getElem?_eq_some_iff.mp hget).1

theorem exists_entry {index : Nat} (h : index < 99) : ∃ e, entry index = some e :=
  ⟨_, congrArg (Option.map _) (List.getElem?_eq_getElem (l := entries) h)⟩

/-! ## The decoder's switches -/

section Decoder

set_option maxRecDepth 100000

/-- The two switches against the table. -/
theorem switches_agree : ((∀ c ∈ headerValues, c.1.toNat < 99) ∧ ∀ c ∈ headerNames, c.1.toNat < 99) ∧
    ∀ i : Fin 99,
      findHeaderValue (UInt8.ofNat i.val) = ((entry i.val).filter fun e => !e.value.isEmpty) ∧
        findHeaderOnly (UInt8.ofNat i.val) = (entry i.val).map Header.name := by
  decide +kernel

/-- No case of the switch is for an index outside the table. -/
theorem headerValues_lt : ∀ c ∈ headerValues, c.1.toNat < 99 := switches_agree.1.1

theorem headerNames_lt : ∀ c ∈ headerNames, c.1.toNat < 99 := switches_agree.1.2

/-- An index of an entry with a value is answered with the entry. -/
theorem findHeaderValue_entry (i : Fin 99) : findHeaderValue (UInt8.ofNat i.val) =
    (entry i.val).filter fun e => !e.value.isEmpty := (switches_agree.2 i).1

/-- Any index of the table is answered with the entry's name. -/
theorem findHeaderOnly_entry (i : Fin 99) : findHeaderOnly (UInt8.ofNat i.val) =
    (entry i.val).map Header.name := (switches_agree.2 i).2

end Decoder

/-- There is no entry from 99 on. -/
theorem entry_of_ge {index : Nat} (h : 99 ≤ index) : entry index = none :=
  Option.map_eq_none_iff.mpr (List.getElem?_eq_none h)

/-- A switch whose cases are all below 99 answers nothing from there on. -/
theorem find_of_ge {α : Type} {cases : List (UInt8 × α)} (hlt : ∀ c ∈ cases, c.1.toNat < 99)
    {index : UInt8} (h : 99 ≤ index.toNat) : cases.find? (fun c => c.1 == index) = none := by
  refine List.find?_eq_none.mpr fun c hc heq => ?_
  have := hlt c hc
  rw [beq_iff_eq.mp heq] at this
  omega

/-- `find_header_value` answers the entries that have a value. -/
theorem findHeaderValue_eq (index : UInt8) :
    findHeaderValue index = (entry index.toNat).filter fun e => !e.value.isEmpty := by
  by_cases h : index.toNat < 99
  · have hi := findHeaderValue_entry ⟨index.toNat, h⟩
    rwa [UInt8.ofNat_toNat] at hi
  · have hge : 99 ≤ index.toNat := Nat.not_lt.mp h
    rw [findHeaderValue, find_of_ge headerValues_lt hge, entry_of_ge hge]
    rfl

/-- `find_header_only` answers the names of all entries. -/
theorem findHeaderOnly_eq (index : UInt8) :
    findHeaderOnly index = (entry index.toNat).map Header.name := by
  by_cases h : index.toNat < 99
  · have hi := findHeaderOnly_entry ⟨index.toNat, h⟩
    rwa [UInt8.ofNat_toNat] at hi
  · have hge : 99 ≤ index.toNat := Nat.not_lt.mp h
    rw [findHeaderOnly, find_of_ge headerNames_lt hge, entry_of_ge hge]
    rfl

theorem findHeaderValue_eq_some {index : UInt8} {h : Header} :
    findHeaderValue index = some h ↔ entry index.toNat = some h ∧ h.value ≠ [] := by
  rw [findHeaderValue_eq, Option.filter_eq_some_iff]
  simp only [Bool.not_eq_true', List.isEmpty_eq_false_iff]

theorem findHeaderOnly_eq_some {index : UInt8} {name : List UInt8} :
    findHeaderOnly index = some name ↔ ∃ e, entry index.toNat = some e ∧ e.name = name := by
  rw [findHeaderOnly_eq, Option.map_eq_some_iff]

/-! ## The encoder's switch -/

section Encoder

set_option maxRecDepth 100000

/-- The index of a value is right about the table, under a name. -/
def valueAgrees (name : List UInt8) (v : UInt64 × UInt8) : Bool :=
  match entry v.2.toNat with
  | none => false
  | some e => e.name == name && !e.value.isEmpty && Xxh64.xxh64 e.value == v.1

/-- A case of the encoder is right about the table: the index it falls back to has the name with
the hash it is for, all its values are right, and that index is among them unless its value is
empty. -/
def caseAgrees (c : NameCase) : Bool :=
  match entry c.only.toNat with
  | none => false
  | some e => Xxh64.xxh64 e.name == c.nameHash && c.values.all (valueAgrees e.name) &&
    (e.value.isEmpty || c.values.any fun v => v.2 == c.only)

/-- The switch of the encoder against the table: each case agrees with it, no hash stands in two cases, and
every index stands somewhere. -/
theorem nameCases_ok : ((∀ c ∈ nameCases, caseAgrees c = true) ∧ (nameCases.map NameCase.nameHash).Nodup ∧
    ∀ c ∈ nameCases, (c.values.map Prod.fst).Nodup) ∧
    ∀ i : Fin 99, ∃ c ∈ nameCases, c.only.toNat = i.val ∨ ∃ v ∈ c.values, v.2.toNat = i.val := by
  decide +kernel

/-- Each case agrees with the table. -/
theorem nameCases_agree : ∀ c ∈ nameCases, caseAgrees c = true := nameCases_ok.1.1

/-- No hash of a name stands in two cases. -/
theorem nameCases_hashes : (nameCases.map NameCase.nameHash).Nodup := nameCases_ok.1.2.1

/-- No hash of a value stands twice under a name. -/
theorem nameCases_valueHashes : ∀ c ∈ nameCases, (c.values.map Prod.fst).Nodup := nameCases_ok.1.2.2

theorem nameCases_cover : ∀ i : Fin 99, ∃ c ∈ nameCases,
    c.only.toNat = i.val ∨ ∃ v ∈ c.values, v.2.toNat = i.val := nameCases_ok.2

end Encoder

/-- What `caseAgrees` says of the index a case falls back to. -/
theorem case_only {c : NameCase} (hc : c ∈ nameCases) :
    ∃ e, entry c.only.toNat = some e ∧ Xxh64.xxh64 e.name = c.nameHash ∧
      (∀ v ∈ c.values, valueAgrees e.name v = true) ∧
      (e.value ≠ [] → ∃ v ∈ c.values, v.2 = c.only) := by
  have h := nameCases_agree c hc
  unfold caseAgrees at h
  cases he : entry c.only.toNat with
  | none =>
    rw [he] at h
    cases h
  | some e =>
    rw [he] at h
    simp only [Bool.and_eq_true, Bool.or_eq_true, beq_iff_eq, List.all_eq_true, List.any_eq_true,
      List.isEmpty_iff] at h
    exact ⟨e, rfl, h.1.1, h.1.2, fun hne => h.2.resolve_left hne⟩

/-- What `valueAgrees` says of an index. -/
theorem of_valueAgrees {name : List UInt8} {v : UInt64 × UInt8} (h : valueAgrees name v = true) :
    ∃ e, entry v.2.toNat = some e ∧ e.name = name ∧ e.value ≠ [] ∧ Xxh64.xxh64 e.value = v.1 := by
  unfold valueAgrees at h
  cases he : entry v.2.toNat with
  | none =>
    rw [he] at h
    cases h
  | some e =>
    rw [he] at h
    simp only [Bool.and_eq_true, beq_iff_eq, Bool.not_eq_true', List.isEmpty_eq_false_iff] at h
    exact ⟨e, rfl, h.1.1, h.1.2, h.2⟩

/-- The case an entry of the table falls under. -/
theorem exists_case {index : Nat} {e : Header} (h : entry index = some e) :
    ∃ c ∈ nameCases, Xxh64.xxh64 e.name = c.nameHash ∧
      (entry c.only.toNat).map Header.name = some e.name ∧
      (e.value ≠ [] → ∃ v ∈ c.values, v.2.toNat = index ∧ Xxh64.xxh64 e.value = v.1) := by
  obtain ⟨c, hc, hplace⟩ := nameCases_cover ⟨index, entry_lt h⟩
  obtain ⟨d, hd, hname, hvalues, hself⟩ := case_only hc
  have hvalue {v : UInt64 × UInt8} (hv : v ∈ c.values) (hi : v.2.toNat = index) :
      e.name = d.name ∧ Xxh64.xxh64 e.value = v.1 := by
    obtain ⟨e', he', hn, -, hh⟩ := of_valueAgrees (hvalues v hv)
    rw [hi, h] at he'
    cases he'
    exact ⟨hn, hh⟩
  refine ⟨c, hc, ?_⟩
  rcases hplace with honly | ⟨v, hv, hi⟩
  · rw [honly, h] at hd
    cases hd
    refine ⟨hname, by rw [honly, h]; rfl, fun hne => ?_⟩
    obtain ⟨v, hv, hv2⟩ := hself hne
    have hi : v.2.toNat = index := by rw [hv2, honly]
    exact ⟨v, hv, hi, (hvalue hv hi).2⟩
  · have hv' := hvalue hv hi
    refine ⟨by rw [hv'.1, hname], by rw [hd, hv'.1]; rfl, fun _ => ⟨v, hv, hi, hv'.2⟩⟩

/-- In a list whose keys differ, a key finds the element it came from. -/
theorem find_of_nodup {α κ : Type} [BEq κ] [LawfulBEq κ] {key : α → κ} {l : List α} {a : α}
    (hn : (l.map key).Nodup) (ha : a ∈ l) : l.find? (fun x => key x == key a) = some a := by
  cases hf : l.find? (fun x => key x == key a) with
  | none => exact absurd (beq_self_eq_true (key a)) (List.find?_eq_none.mp hf a ha)
  | some x =>
    have hx : x ∈ l := List.mem_of_find?_eq_some hf
    have hkey : key x = key a := beq_iff_eq.mp (List.find?_some (p := fun x => key x == key a) hf)
    rw [List.inj_on_of_nodup_map hn hx ha hkey]

section FindIndex

variable {hash : List UInt8 → UInt64} {h : Header}

/-- The answer under the case of the name's hash. -/
theorem findIndex_of_case {c : NameCase} (hc : c ∈ nameCases) (hn : c.nameHash = hash h.name) :
    findIndex hash h = match c.values.find? fun v => v.1 == hash h.value with
      | some v => (.headerValue, v.2)
      | none => (.headerOnly, c.only) := by
  have hfind : (nameCases.find? fun c => c.nameHash == hash h.name) = some c := by
    rw [← hn]
    exact find_of_nodup nameCases_hashes hc
  unfold findIndex
  cases hv : c.values.find? fun v => v.1 == hash h.value with
  | none => simp only [hfind, hv]
  | some v => simp only [hfind, hv]

/-- An index answered comes from the case of the name's hash. -/
theorem exists_case_of_findIndex {t : IndexType} {i : UInt8} (hf : findIndex hash h = (t, i))
    (ht : t ≠ .missing) : ∃ c ∈ nameCases, c.nameHash = hash h.name := by
  rw [findIndex] at hf
  cases hc : nameCases.find? fun c => c.nameHash == hash h.name with
  | none =>
    rw [hc] at hf
    exact absurd (congrArg Prod.fst hf).symm ht
  | some c =>
    exact ⟨c, List.mem_of_find?_eq_some hc,
      beq_iff_eq.mp (List.find?_some (p := fun c : NameCase => c.nameHash == hash h.name) hc)⟩

/-- A whole header is answered only with the index of a value with the hash of its value. -/
theorem findIndex_headerValue {i : UInt8} (hf : findIndex hash h = (.headerValue, i)) :
    ∃ e, entry i.toNat = some e ∧ e.value ≠ [] ∧ Xxh64.xxh64 e.name = hash h.name ∧
      Xxh64.xxh64 e.value = hash h.value := by
  obtain ⟨c, hc, hn⟩ := exists_case_of_findIndex hf nofun
  rw [findIndex_of_case hc hn] at hf
  obtain ⟨d, -, hname, hvalues, -⟩ := case_only hc
  cases hv : c.values.find? fun v => v.1 == hash h.value with
  | none =>
    rw [hv] at hf
    cases hf
  | some v =>
    rw [hv] at hf
    obtain rfl : v.2 = i := congrArg Prod.snd hf
    obtain ⟨e, he, hen, hne, hev⟩ := of_valueAgrees (hvalues v (List.mem_of_find?_eq_some hv))
    have hvh : v.1 = hash h.value :=
      beq_iff_eq.mp (List.find?_some (p := fun v : UInt64 × UInt8 => v.1 == hash h.value) hv)
    exact ⟨e, he, hne, by rw [hen, hname, hn], hev.trans hvh⟩

/-- A name is answered only with the index of a name with its hash. -/
theorem findIndex_headerOnly {i : UInt8} (hf : findIndex hash h = (.headerOnly, i)) :
    ∃ e, entry i.toNat = some e ∧ Xxh64.xxh64 e.name = hash h.name := by
  obtain ⟨c, hc, hn⟩ := exists_case_of_findIndex hf nofun
  rw [findIndex_of_case hc hn] at hf
  obtain ⟨d, hd, hname, -, -⟩ := case_only hc
  cases hv : c.values.find? fun v => v.1 == hash h.value with
  | some v =>
    rw [hv] at hf
    cases hf
  | none =>
    rw [hv] at hf
    obtain rfl : c.only = i := congrArg Prod.snd hf
    exact ⟨d, hd, hname.trans hn⟩

end FindIndex

end Bnl.Http3.Qpack.Table.Fixed
