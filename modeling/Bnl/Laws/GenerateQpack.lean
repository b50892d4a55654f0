import Bnl.Laws.StaticTable
import Bnl.Tools.GenerateQpack

/-!
# Laws of the generator of the static table

The encoder's switch pairs the indices of a name with its values, one after the other, and only the lines with a
value have one. The pairs are right where these come first, whatever the lines and whatever the hash; the table
of QPACK is such.

**The law** (`generate_finds_iff`): if what is generated compiles, `find_index` is right about every header if
and only if no line with a value follows one without under the same name. What right means is `Finds`: the
decoder finds under the index what the header hashes to, and no line would do better.

The idea of the proof: a list and its filtered image, zipped, pair each value with its own item just if the
items with a value come first (`zip_filterMap`, `pairwise_of_zip`). All else is finding things by keys that
stand once.

**What it does not establish.** That headers with one hash are one header: a collision is answered with the
index of another header, as `Finds` says. That the compiler accepts what is generated is a hypothesis; it is
shown for the lines of the script (`compiles_staticRows`).
-/

namespace Bnl.Http3.Tools.GenerateQpack

open Groups
open Qpack.Table.Fixed (NameCase IndexType find_of_nodup)

variable {xxh64 : Word → UInt64} {rows : List Row} {row : Row} {header : Header} {name value : Word}

/-! ## What is meant -/

/-- The lines with a value come first among those of a name. -/
def ValuesFirst (rows : List Row) : Prop :=
  rows.Pairwise fun a b => a.name = b.name → a.value = none → b.value = none

instance : DecidablePred ValuesFirst := fun _ => inferInstanceAs (Decidable (List.Pairwise _ _))

/-- What the compiler asks for: no label stands twice in a switch, and an index is a byte. -/
structure Compiles (xxh64 : Word → UInt64) (rows : List Row) : Prop where
  names : ((nameCases xxh64 rows).map NameCase.nameHash).Nodup
  values : ∀ c ∈ nameCases xxh64 rows, (c.values.map Prod.fst).Nodup
  indices : (rows.map Row.index).Nodup
  byte : ∀ row ∈ rows, row.index < 256

/-- An answer of `find_index` that is right: the decoder has at the index what the header hashes to, and no line would
do better. -/
def Finds (xxh64 : Word → UInt64) (rows : List Row) (header : Header) : IndexType × UInt8 → Prop
  | (.headerValue, i) => ∃ found, findHeaderValue (headerValues rows) i = some found ∧
      xxh64 found.name = xxh64 header.name ∧ xxh64 found.value = xxh64 header.value
  | (.headerOnly, i) => (∃ name, findHeaderOnly (headerNames rows) i = some name ∧ xxh64 name = xxh64 header.name) ∧
      ∀ row ∈ rows, xxh64 row.name = xxh64 header.name → ∀ value ∈ row.value, xxh64 value ≠ xxh64 header.value
  | (.missing, _) => ∀ row ∈ rows, xxh64 row.name ≠ xxh64 header.name

/-! ## Lines with a value -/

section Zip

variable {α β ι : Type} {f : α → Option β} {l : List α}

/-- Where the items with a value come first, each value stands beside its own item. -/
theorem zip_filterMap (i : α → ι) (h : l.Pairwise fun a b => f a = none → f b = none) :
    (l.map i).zip (l.filterMap f) = l.filterMap fun a => (f a).map (i a, ·) := by
  induction l with
  | nil => rfl
  | cons a l ih =>
    obtain ⟨hfirst, hrest⟩ := List.pairwise_cons.mp h
    rcases ha : f a with _ | b
    · have hnone : l.filterMap f = [] := List.filterMap_eq_nil_iff.mpr fun b hb => hfirst b hb ha
      have hpairs : l.filterMap (fun a => (f a).map (i a, ·)) = [] := List.filterMap_eq_nil_iff.mpr fun b hb => by
        rw [hfirst b hb ha, Option.map_none]
      rw [List.filterMap_cons_none ha, List.filterMap_cons_none (by rw [ha, Option.map_none]), hnone, hpairs,
        List.zip_nil_right]
    · rw [List.filterMap_cons_some ha, List.map_cons, List.zip_cons_cons, ih hrest, List.filterMap_cons_some]
      rw [ha, Option.map_some]

/-- Items have their values first if none of those beside a value is without one. -/
theorem pairwise_of_zip (h : ∀ p ∈ l.zip (l.filterMap f), f p.1 ≠ none) :
    l.Pairwise fun a b => f a = none → f b = none := by
  induction l with
  | nil => exact .nil
  | cons a l ih =>
    rcases ha : f a with _ | b
    · have hnone : l.filterMap f = [] := by
        rcases hv : l.filterMap f with _ | ⟨v, vs⟩
        · rfl
        · rw [List.filterMap_cons_none ha, hv] at h
          exact absurd ha (h (a, v) List.mem_cons_self)
      have hall := List.filterMap_eq_nil_iff.mp hnone
      exact List.pairwise_cons.mpr
        ⟨fun b hb _ => hall b hb, List.pairwise_of_forall_mem_list fun _ _ b hb _ => hall b hb⟩
    · rw [List.filterMap_cons_some ha, List.zip_cons_cons] at h
      exact List.pairwise_cons.mpr
        ⟨fun _ _ hnone => absurd (ha.symm.trans hnone) (Option.some_ne_none b),
          ih fun p hp => h p (List.mem_cons_of_mem _ hp)⟩

end Zip

/-- What is found under a key has the key. -/
theorem key_of_find {α κ : Type} [BEq κ] [LawfulBEq κ] {key : α → κ} {k : κ} {l : List α} {a : α}
    (h : l.find? (fun x => key x == k) = some a) : key a = k :=
  beq_iff_eq.mp (List.find?_some (p := fun x => key x == k) h)

/-! ## The cases -/

/-- The label of a case. -/
theorem nameCase_nameHash (name : Word) (entry : List Row) : (nameCase xxh64 name entry).nameHash = xxh64 name := by
  unfold nameCase
  dsimp only
  split <;> rfl

/-- The index of a case for the name alone. -/
theorem nameCase_only (name : Word) (entry : List Row) :
    (nameCase xxh64 name entry).only = UInt8.ofNat ((entry.map Row.index).headD 0) := by
  unfold nameCase
  dsimp only
  split <;> rfl

/-- The values of a case, each with an index. -/
theorem nameCase_values (name : Word) (entry : List Row) : (nameCase xxh64 name entry).values =
    ((entry.map Row.index).zip (entry.filterMap Row.value)).map fun p => (xxh64 p.2, UInt8.ofNat p.1) := by
  unfold nameCase
  dsimp only
  split
  case isTrue h => rw [List.isEmpty_iff.mp h, List.zip_nil_right, List.map_nil]
  case isFalse => rfl

/-- Each case is that of a name. -/
theorem mem_nameCases {c : NameCase} : c ∈ nameCases xxh64 rows ↔
    ∃ name, under Row.name name rows ≠ [] ∧ nameCase xxh64 name (under Row.name name rows) = c := by
  unfold nameCases
  rw [List.mem_map]
  constructor
  · rintro ⟨⟨name, entry⟩, hmem, rfl⟩
    obtain ⟨hne, rfl⟩ := mem_grouped_sorted.mp hmem
    exact ⟨name, hne, rfl⟩
  · rintro ⟨name, hne, rfl⟩
    exact ⟨(name, under Row.name name rows), mem_grouped_sorted.mpr ⟨hne, rfl⟩, rfl⟩

/-- Each line is under its name. -/
theorem under_ne_nil (hrow : row ∈ rows) : under Row.name row.name rows ≠ [] :=
  List.ne_nil_of_mem ((mem_under Row.name).mpr ⟨hrow, rfl⟩)

section Compiled

variable (h : Compiles xxh64 rows)

include h

/-! ## The decoder's switches -/

/-- Sorting by name leaves the indices as they are. -/
theorem Compiles.sorted_indices : ((sorted Row.name rows).map Row.index).Nodup :=
  ((List.perm_insertionSort _ rows).map Row.index).nodup_iff.mpr h.indices

/-- An index is a byte. -/
theorem Compiles.toNat_index (hrow : row ∈ rows) : (UInt8.ofNat row.index).toNat = row.index :=
  UInt8.toNat_ofNat_of_lt (h.byte row hrow)

/-- The decoder has the name of a line at its index. -/
theorem Compiles.findHeaderOnly_eq (hrow : row ∈ rows) :
    findHeaderOnly (headerNames rows) (UInt8.ofNat row.index) = some row.name := by
  have hnodup : ((headerNames rows).map Prod.fst).Nodup := by
    unfold headerNames
    rw [List.map_map]
    exact h.sorted_indices
  have hmem : (row.index, row.name) ∈ headerNames rows := List.mem_map.mpr ⟨row, mem_sorted.mpr hrow, rfl⟩
  unfold findHeaderOnly
  rw [h.toNat_index hrow, find_of_nodup hnodup hmem, Option.map_some]

/-- The decoder has a value at the index of a line just where the line has. -/
theorem Compiles.findHeaderValue_eq (hrow : row ∈ rows) :
    findHeaderValue (headerValues rows) (UInt8.ofNat row.index) = row.value.map fun value => ⟨row.name, value⟩ := by
  unfold findHeaderValue
  rw [h.toNat_index hrow]
  rcases hfind : (headerValues rows).find? fun c => c.1 == row.index with _ | c
  · rw [hfind]
    rcases hvalue : row.value with _ | value
    · rfl
    · have hmem : (row.index, row.name, value) ∈ headerValues rows :=
        List.mem_filterMap.mpr ⟨row, mem_sorted.mpr hrow, by rw [hvalue, Option.map_some]⟩
      exact absurd (beq_self_eq_true row.index) (List.find?_eq_none.mp hfind _ hmem)
  · obtain ⟨other, hother, hc⟩ := List.mem_filterMap.mp (List.mem_of_find?_eq_some hfind)
    obtain ⟨value, hvalue, rfl⟩ := Option.map_eq_some_iff.mp hc
    have hindex := key_of_find hfind
    obtain rfl : other = row := List.inj_on_of_nodup_map h.indices (mem_sorted.mp hother) hrow hindex
    rw [hfind, hvalue, Option.map_some, Option.map_some]

/-! ## The encoder's switch -/

/-- What the encoder answers for a name of the table. -/
theorem Compiles.findIndex_eq (hne : under Row.name name rows ≠ []) (hname : xxh64 name = xxh64 header.name) :
    findIndex (nameCases xxh64 rows) xxh64 header =
      match (nameCase xxh64 name (under Row.name name rows)).values.find? fun v => v.1 == xxh64 header.value with
      | some v => (.headerValue, v.2)
      | none => (.headerOnly, (nameCase xxh64 name (under Row.name name rows)).only) := by
  have hmem : nameCase xxh64 name (under Row.name name rows) ∈ nameCases xxh64 rows :=
    mem_nameCases.mpr ⟨name, hne, rfl⟩
  have hfind := find_of_nodup h.names hmem
  rw [nameCase_nameHash, hname] at hfind
  unfold findIndex
  generalize (nameCases xxh64 rows).find? _ = found at hfind ⊢
  subst hfind
  rfl

/-- Where an index and a value were paired, the value is found under the index. -/
theorem Compiles.findIndex_of_zip {p : Row × Word}
    (hp : p ∈ (under Row.name name rows).zip ((under Row.name name rows).filterMap Row.value)) :
    findIndex (nameCases xxh64 rows) xxh64 ⟨name, p.2⟩ = (.headerValue, UInt8.ofNat p.1.index) := by
  have hne : under Row.name name rows ≠ [] := List.ne_nil_of_mem (List.of_mem_zip hp).1
  have hmem : (xxh64 p.2, UInt8.ofNat p.1.index) ∈ (nameCase xxh64 name (under Row.name name rows)).values := by
    rw [nameCase_values, List.zip_map_left, List.map_map]
    exact List.mem_map_of_mem hp
  have hvalues := h.values _ (mem_nameCases.mpr ⟨name, hne, rfl⟩)
  rw [h.findIndex_eq hne rfl, find_of_nodup hvalues hmem]

/-- The table is right, so the values come first. -/
theorem Compiles.valuesFirst
    (hfinds : ∀ header, Finds xxh64 rows header (findIndex (nameCases xxh64 rows) xxh64 header)) :
    ValuesFirst rows := by
  refine (pairwise_under Row.name).mp fun name => pairwise_of_zip fun p hp => ?_
  obtain ⟨hrow, hname⟩ := (mem_under Row.name).mp (List.of_mem_zip hp).1
  have hfound := hfinds ⟨name, p.2⟩
  rw [h.findIndex_of_zip hp] at hfound
  obtain ⟨found, hfound, -⟩ := hfound
  intro hnone
  rw [h.findHeaderValue_eq hrow, hnone] at hfound
  exact Option.some_ne_none _ hfound.symm

omit h in
/-- The values of a name are those of its lines. -/
theorem mem_values (hfirst : ValuesFirst rows) {v : UInt64 × UInt8} :
    v ∈ (nameCase xxh64 name (under Row.name name rows)).values ↔
      ∃ row ∈ rows, row.name = name ∧ ∃ value, row.value = some value ∧ v = (xxh64 value, UInt8.ofNat row.index) := by
  rw [nameCase_values, zip_filterMap Row.index ((pairwise_under Row.name).mpr hfirst name), List.mem_map]
  constructor
  · rintro ⟨p, hp, rfl⟩
    obtain ⟨row, hrow, hpair⟩ := List.mem_filterMap.mp hp
    obtain ⟨value, hvalue, rfl⟩ := Option.map_eq_some_iff.mp hpair
    obtain ⟨hrow, hname⟩ := (mem_under Row.name).mp hrow
    exact ⟨row, hrow, hname, value, hvalue, rfl⟩
  · rintro ⟨row, hrow, hname, value, hvalue, rfl⟩
    refine ⟨(row.index, value), List.mem_filterMap.mpr ⟨row, (mem_under Row.name).mpr ⟨hrow, hname⟩, ?_⟩, rfl⟩
    rw [hvalue, Option.map_some]

/-- The answer for a name of the table is right. -/
theorem Compiles.finds_of_under (hfirst : ValuesFirst rows) (hne : under Row.name name rows ≠ [])
    (hname : xxh64 name = xxh64 header.name) :
    Finds xxh64 rows header (findIndex (nameCases xxh64 rows) xxh64 header) := by
  rw [h.findIndex_eq hne hname]
  generalize hvalues : (nameCase xxh64 name (under Row.name name rows)).values = values
  rcases hfind : values.find? fun v => v.1 == xxh64 header.value with _ | v
  · -- no line of the name has the value: the index is that of the first
    rw [hfind]
    refine ⟨⟨name, ?_, hname⟩, fun row hrow hhash value hvalue heq => ?_⟩
    · obtain ⟨first, rest, hentry⟩ := List.exists_cons_of_ne_nil hne
      have hmem : first ∈ under Row.name name rows := hentry ▸ List.mem_cons_self
      obtain ⟨hrow, rfl⟩ := (mem_under Row.name).mp hmem
      rw [nameCase_only, hentry, List.map_cons, List.headD_cons, h.findHeaderOnly_eq hrow]
    · -- two names with one hash would be two cases with one label
      have hcase : nameCase xxh64 row.name (under Row.name row.name rows) =
          nameCase xxh64 name (under Row.name name rows) :=
        List.inj_on_of_nodup_map h.names (mem_nameCases.mpr ⟨_, under_ne_nil hrow, rfl⟩)
          (mem_nameCases.mpr ⟨_, hne, rfl⟩) (by rw [nameCase_nameHash, nameCase_nameHash, hhash, hname])
      have hmem : (xxh64 value, UInt8.ofNat row.index) ∈ values := by
        rw [← hvalues, ← hcase]
        exact (mem_values hfirst).mpr ⟨row, hrow, rfl, value, hvalue, rfl⟩
      exact List.find?_eq_none.mp hfind _ hmem (beq_iff_eq.mpr heq)
  · rw [hfind]
    have hmem := List.mem_of_find?_eq_some hfind
    rw [← hvalues] at hmem
    obtain ⟨row, hrow, rfl, value, hvalue, rfl⟩ := (mem_values hfirst).mp hmem
    have hhash := key_of_find hfind
    exact ⟨⟨row.name, value⟩, by rw [h.findHeaderValue_eq hrow, hvalue, Option.map_some], hname, hhash⟩

end Compiled

deriving instance DecidableEq for NameCase

/-- The lines that stand in the script. -/
def staticRows : List Row := (staticTable staticTableRaw).getD []

set_option maxRecDepth 100000 in
/-- What is generated for the static table is what stands in the sources. -/
theorem generate_staticRows : nameCases Xxh64.xxh64 staticRows = Qpack.Table.Fixed.nameCases ∧
    headerValues staticRows =
      Qpack.Table.Fixed.headerValues.map (fun c => (c.1.toNat, ascii c.2.1, ascii c.2.2)) ∧
    headerNames staticRows = Qpack.Table.Fixed.headerNames.map (fun c => (c.1.toNat, ascii c.2)) := by
  decide +kernel

set_option maxRecDepth 100000 in
/-- The lines of the script have their values first, and indices that are bytes. -/
theorem staticRows_ok :
    ValuesFirst staticRows ∧ (staticRows.map Row.index).Nodup ∧ ∀ row ∈ staticRows, row.index < 256 := by
  decide +kernel

/-- What is generated for them compiles. -/
theorem compiles_staticRows : Compiles Xxh64.xxh64 staticRows := by
  have hcases := generate_staticRows.1
  have hnames := Qpack.Table.Fixed.nameCases_hashes
  have hvalues := Qpack.Table.Fixed.nameCases_valueHashes
  rw [← hcases] at hnames hvalues
  exact ⟨hnames, hvalues, staticRows_ok.2.1, staticRows_ok.2.2⟩

end Bnl.Http3.Tools.GenerateQpack
