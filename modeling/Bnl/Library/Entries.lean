import Mathlib.Data.List.Basic

/-!
# Entries of an ordered map

What the entry under a key is after a change of the map. A change at a key is seen under that key
(`getElem_insert_self`, `getElem_erase_self`, `getElem_alter_self`), and under no other (the `_ne` lemmas): the
frame rules of a map, in the form in which a proof about one entry of many wants them.

The entries are listed in the order of their keys, each key once (`pairwise_toList`), so a loop over a map meets
every entry exactly once and in a known order.
-/

namespace Entries

variable {K V : Type} [Ord K] [Std.TransOrd K] {m : Std.TreeMap K V} {i k : K}

/-- What was inserted is there. -/
theorem getElem_insert_self (v : V) : (m.insert i v)[i]? = some v := Std.TreeMap.getElem?_insert_self

/-- What was erased is gone. -/
theorem getElem_erase_self : (m.erase i)[i]? = none := Std.TreeMap.getElem?_erase_self

/-- An entry that is altered is what the function makes of the old one, there or not. -/
theorem getElem_alter_self {f : Option V → Option V} : (m.alter i f)[i]? = f m[i]? :=
  Std.TreeMap.getElem?_alter_self

variable [Std.LawfulEqOrd K]

/-- Inserting under a key leaves the other keys alone. -/
theorem getElem_insert_ne (h : k ≠ i) (v : V) : (m.insert i v)[k]? = m[k]? := by
  rw [Std.TreeMap.getElem?_insert, if_neg]
  exact fun heq => h (Std.LawfulEqCmp.eq_of_compare heq).symm

/-- Erasing a key leaves the other keys alone. -/
theorem getElem_erase_ne (h : k ≠ i) : (m.erase i)[k]? = m[k]? := by
  rw [Std.TreeMap.getElem?_erase, if_neg]
  exact fun heq => h (Std.LawfulEqCmp.eq_of_compare heq).symm

theorem getElem_alter_ne (h : k ≠ i) {f : Option V → Option V} : (m.alter i f)[k]? = m[k]? := by
  rw [Std.TreeMap.getElem?_alter, if_neg]
  exact fun heq => h (Std.LawfulEqCmp.eq_of_compare heq).symm

/-- The list of the entries has just the entries of the map. -/
theorem mem_toList {v : V} : (i, v) ∈ m.toList ↔ m[i]? = some v :=
  Std.TreeMap.mem_toList_iff_getElem?_eq_some

omit [Std.LawfulEqOrd K] in
/-- The list goes up strictly in its keys. -/
theorem pairwise_toList [LT K] [LE K] [Std.LawfulOrderOrd K] [Std.LawfulOrderLT K]
    (m : Std.TreeMap K V) : m.toList.Pairwise fun e e' => e.1 < e'.1 :=
  Std.TreeMap.ordered_keys_toList.imp fun h => Std.compare_eq_lt.mp h

end Entries
