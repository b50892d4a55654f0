import Mathlib.Data.List.Sort

/-!
# Groups of a sorted list

Items are sorted by a key, and those with the same key keep their order. Neighbours with the same key then make
a group: there is one for each key, and in it are the items of the key in the order they had at first. This is
the `groupby` of a sorted list that a generator of code would use to write one case for each key.

**The law** (`mem_grouped_sorted`): a group of the sorted list is the sublist of the items of its key, as they
stood in the list before it was sorted. Its two halves are that sorting keeps the order of the items of one key
(`under_sorted`), and that in a sorted list the items of a key are neighbours (`of_grouped`).

Nothing is said of which key comes first, except that they go up.
-/

namespace Groups

variable {α κ : Type} [LE κ] [DecidableLE κ] [DecidableEq κ] (key : α → κ)

/-- A sort that is stable: an item goes in front of those that are not smaller than it, so in front of the later
ones with its key. -/
def sorted (l : List α) : List α := l.insertionSort fun a b => key a ≤ key b

/-- Neighbours with the same key, under that key. On a list that is not sorted one key may have several groups. -/
def grouped : List α → List (κ × List α)
  | [] => []
  | a :: l =>
    match grouped l with
    | [] => [(key a, [a])]
    | (k, g) :: groups => if key a = k then (k, a :: g) :: groups else (key a, [a]) :: (k, g) :: groups

/-- The items of a key, in their order. -/
def under (k : κ) (l : List α) : List α := l.filter fun a => key a = k

variable {a : α} {k : κ} {g l : List α}

omit [LE κ] [DecidableLE κ] in
/-- An item of a key is an item, and has the key. -/
theorem mem_under : a ∈ under key k l ↔ a ∈ l ∧ key a = k := by
  unfold under
  rw [List.mem_filter, decide_eq_true_iff]

omit [LE κ] [DecidableLE κ] in
variable (a l) in
/-- An item comes first among those of its own key. -/
theorem under_cons_self : under key (key a) (a :: l) = a :: under key (key a) l :=
  List.filter_cons_of_pos (decide_eq_true rfl)

omit [LE κ] [DecidableLE κ] in
/-- An item is not among those of another key. -/
theorem under_cons_ne (h : key a ≠ k) : under key k (a :: l) = under key k l :=
  List.filter_cons_of_neg fun heq => h (of_decide_eq_true heq)

omit [LE κ] [DecidableLE κ] in
/-- What holds of items with the same key, in their order, is said of each key. -/
theorem pairwise_under {R : α → α → Prop} :
    (∀ k, (under key k l).Pairwise R) ↔ l.Pairwise fun a b => key a = key b → R a b := by
  constructor
  · intro h
    induction l with
    | nil => exact .nil
    | cons a l ih =>
      refine List.pairwise_cons.mpr ⟨fun b hb heq => ?_, ih fun k => ?_⟩
      · have hrest := h (key a)
        rw [under_cons_self] at hrest
        exact List.rel_of_pairwise_cons hrest ((mem_under key).mpr ⟨hb, heq.symm⟩)
      · by_cases ha : key a = k
        · have hrest := h k
          subst ha
          rw [under_cons_self] at hrest
          exact hrest.of_cons
        · rw [← under_cons_ne key ha]
          exact h k
  · intro h k
    refine (h.filter _).imp_of_mem fun ha hb hR => hR ?_
    rw [((mem_under key).mp ha).2, ((mem_under key).mp hb).2]

variable {key} [Std.IsLinearOrder κ]

/-! ## Sorting -/

omit [DecidableEq κ] in
/-- What is sorted goes up. -/
theorem pairwise_sorted (l : List α) : (sorted key l).Pairwise fun a b => key a ≤ key b := by
  have htotal : Std.Total fun a b : α => key a ≤ key b := ⟨fun _ _ => Std.le_total⟩
  have htrans : IsTrans α fun a b => key a ≤ key b := ⟨fun _ _ _ => Std.le_trans⟩
  exact List.pairwise_insertionSort _ l

omit [DecidableEq κ] [Std.IsLinearOrder κ] in
/-- Sorting neither adds items nor loses any. -/
theorem mem_sorted : a ∈ sorted key l ↔ a ∈ l := List.mem_insertionSort _

/-- An item is put in front of those that are not smaller, so in front of all with its key. -/
theorem under_orderedInsert (k : κ) (a : α) (l : List α) :
    under key k (l.orderedInsert (fun a b => key a ≤ key b) a) = under key k (a :: l) := by
  induction l with
  | nil => rfl
  | cons b l ih =>
    by_cases hle : key a ≤ key b
    · rw [List.orderedInsert_cons, if_pos hle]
    · rw [List.orderedInsert_cons, if_neg hle]
      by_cases hb : key b = k
      · have ha : key a ≠ k := fun ha => hle (ha.trans hb.symm ▸ Std.le_refl _)
        rw [under_cons_ne key ha] at ih ⊢
        subst hb
        rw [under_cons_self, under_cons_self, ih]
      · rw [under_cons_ne key hb, ih]
        by_cases ha : key a = k
        · subst ha
          rw [under_cons_self, under_cons_self, under_cons_ne key hb]
        · rw [under_cons_ne key ha, under_cons_ne key ha, under_cons_ne key hb]

/-- **Sorting keeps the order of the items of a key.** The induction inserts one item at a time
(`under_orderedInsert`). -/
theorem under_sorted (k : κ) (l : List α) : under key k (sorted key l) = under key k l := by
  unfold sorted
  induction l with
  | nil => rfl
  | cons a l ih =>
    rw [List.insertionSort_cons, under_orderedInsert]
    by_cases ha : key a = k
    · subst ha
      rw [under_cons_self, under_cons_self, ih]
    · rw [under_cons_ne key ha, under_cons_ne key ha, ih]

/-! ## Grouping -/

variable (key) in
/-- Groups of a list that is sorted: each is all the items of its key and not empty, the keys go up without
repetition, and no item is left out. -/
structure Of (l : List α) (groups : List (κ × List α)) : Prop where
  group : ∀ {k g}, (k, g) ∈ groups → g ≠ [] ∧ g = under key k l
  keys : groups.Pairwise fun g g' => g.1 ≤ g'.1 ∧ g.1 ≠ g'.1
  all : ∀ a ∈ l, ∃ g, (key a, g) ∈ groups

omit [DecidableLE κ] in
/-- Grouping a sorted list gives its groups. The induction is on the list: the first item joins the first group
or makes one of its own. -/
theorem of_grouped (h : l.Pairwise fun a b => key a ≤ key b) : Of key l (grouped key l) := by
  induction l with
  | nil => exact ⟨nofun, .nil, nofun⟩
  | cons a l ih =>
    obtain ⟨hfirst, hrest⟩ := List.pairwise_cons.mp h
    have hof := ih hrest
    unfold grouped
    generalize grouped key l = groups at hof
    match groups with
    | [] =>
      obtain rfl : l = [] := List.eq_nil_iff_forall_not_mem.mpr fun b hb => by
        obtain ⟨g, hg⟩ := hof.all b hb
        exact absurd hg List.not_mem_nil
      refine ⟨fun {k g} hmem => ?_, List.pairwise_singleton _ _, fun b hb => ?_⟩
      · obtain ⟨rfl, rfl⟩ := Prod.mk.inj (List.mem_singleton.mp hmem)
        exact ⟨List.cons_ne_nil _ _, (under_cons_self key a []).symm⟩
      · rw [List.mem_singleton.mp hb]
        exact ⟨_, List.mem_cons_self⟩
    | (k, g) :: groups =>
      dsimp only
      obtain ⟨hlater, hkeys⟩ := List.pairwise_cons.mp hof.keys
      obtain ⟨hne, hg⟩ := hof.group List.mem_cons_self
      by_cases ha : key a = k
      · -- one more item of the first key
        subst ha
        rw [if_pos rfl]
        refine ⟨fun {k' g'} hmem => ?_, List.pairwise_cons.mpr ⟨hlater, hkeys⟩, fun b hb => ?_⟩
        · rcases List.mem_cons.mp hmem with heq | hmem
          · obtain ⟨rfl, rfl⟩ := Prod.mk.inj heq
            exact ⟨List.cons_ne_nil _ _, by rw [under_cons_self, ← hg]⟩
          · rw [under_cons_ne key (hlater _ hmem).2]
            exact hof.group (List.mem_cons_of_mem _ hmem)
        · rcases List.mem_cons.mp hb with rfl | hb
          · exact ⟨_, List.mem_cons_self⟩
          · obtain ⟨g', hmem⟩ := hof.all b hb
            rcases List.mem_cons.mp hmem with heq | hmem
            · rw [(Prod.mk.inj heq).1]
              exact ⟨_, List.mem_cons_self⟩
            · exact ⟨g', List.mem_cons_of_mem _ hmem⟩
      · -- a new key, which is less than the others
        rw [if_neg ha]
        have hle : key a ≤ k := by
          obtain ⟨b, hb⟩ := List.exists_mem_of_ne_nil g hne
          rw [hg] at hb
          obtain ⟨hmem, rfl⟩ := (mem_under key).mp hb
          exact hfirst b hmem
        have hless : ∀ g' ∈ (k, g) :: groups, key a ≤ g'.1 ∧ key a ≠ g'.1 := by
          intro g' hmem
          rcases List.mem_cons.mp hmem with rfl | hmem
          · exact ⟨hle, ha⟩
          · obtain ⟨hle', hne'⟩ := hlater _ hmem
            exact ⟨Std.le_trans hle hle', fun heq => hne' (Std.le_antisymm hle' (heq ▸ hle))⟩
        refine ⟨fun {k' g'} hmem => ?_, List.pairwise_cons.mpr ⟨hless, hof.keys⟩, fun b hb => ?_⟩
        · rcases List.mem_cons.mp hmem with heq | hmem
          · obtain ⟨rfl, rfl⟩ := Prod.mk.inj heq
            refine ⟨List.cons_ne_nil _ _, ?_⟩
            have hnone : under key (key a) l = [] := List.filter_eq_nil_iff.mpr fun b hb => by
              obtain ⟨g', hmem⟩ := hof.all b hb
              exact fun heq => absurd (of_decide_eq_true heq).symm (hless _ hmem).2
            rw [under_cons_self, hnone]
          · rw [under_cons_ne key (hless _ hmem).2]
            exact hof.group hmem
        · rcases List.mem_cons.mp hb with rfl | hb
          · exact ⟨_, List.mem_cons_self⟩
          · obtain ⟨g', hmem⟩ := hof.all b hb
            exact ⟨g', List.mem_cons_of_mem _ hmem⟩

/-- **The groups of a sorted list** are the items of each key, in the order they had before. -/
theorem mem_grouped_sorted : (k, g) ∈ grouped key (sorted key l) ↔ g ≠ [] ∧ g = under key k l := by
  have hof : Of key (sorted key l) _ := of_grouped (pairwise_sorted l)
  constructor
  · intro hmem
    rw [← under_sorted]
    exact hof.group hmem
  · rintro ⟨hne, rfl⟩
    obtain ⟨a, ha⟩ := List.exists_mem_of_ne_nil _ hne
    obtain ⟨hmem, rfl⟩ := (mem_under key).mp ha
    obtain ⟨g, hmem⟩ := hof.all a (mem_sorted.mpr hmem)
    rw [← under_sorted, ← (hof.group hmem).2]
    exact hmem

end Groups
