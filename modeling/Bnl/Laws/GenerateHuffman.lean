import Bnl.Laws.Huffman
import Bnl.Tools.GenerateHuffman

/-!
# Laws of the generator of the Huffman tables

A path leads from the root to a node. The inner nodes in the order of their numbers are the rows of the printed
table, so a state stands for a path, and a transition takes whole codes off the bits behind it. Whatever the
codes are, the table that is printed for them is an automaton that tracks them.

**The law** (`generate_decodes`): for every code table on which the generator runs through, with one row for
each symbol, no code the beginning of another and the end of the string all ones, the printed table decodes a
byte string to the symbols whose codes its bits are, with fewer than eight ones behind them, and no other byte
string.

The idea of the proof: `Numbered` says what `set_node_id` leaves of a tree, `traverse_get` what four bits from a
node come to. Put together (`cell_cases`), an entry of the table takes a code off the bits or goes on along the
path; that is what `Automaton.Tracks` asks for, and the law of tracking automata (`Library/PrefixCode`) does the
rest. The table of the codec is one that is printed (`generate_codeTable`).

**What it does not establish.** That the generator runs through: a code table that is not complete leaves a node
without a child, and building its transitions fails. Tables with more than 256 inner nodes have no byte for a
state, and are not printed either.
-/

namespace Bnl.Http3.Tools.GenerateHuffman

open PrefixCode Bytes
open Qpack.Huffman (Encoding.Symbol Decoding.Node Decoding.Flag.accepted Decoding.Flag.symbol Decoding.Flag.failed
  Ones nibbles nibbles_bits bytesBits emitted)

namespace Node

/-! ## Paths -/

/-- The symbol at a node. -/
def term : Node → Option Nat
  | .none => Option.none
  | .node term _ _ _ _ _ => term

/-- The node behind a bit. -/
def child : Node → Bool → Node
  | .none, _ => .none
  | .node _ _ _ _ left _, false => left
  | .node _ _ _ _ _ right, true => right

/-- The node at the end of a path. -/
def find : Node → List Bool → Node
  | nd, [] => nd
  | nd, bit :: path => (nd.child bit).find path

/-- A node without a symbol. -/
def IsInner : Node → Prop
  | .node .none _ _ _ _ _ => True
  | _ => False

/-- A path on which no code ends. -/
def Inner (root : Node) (path : List Bool) : Prop := ∀ begun, begun <+: path → (root.find begun).IsInner

variable {nd root : Node} {path begun : List Bool} {bit : Bool}

/-- Outside the tree there is nothing. -/
theorem find_none (path : List Bool) : Node.none.find path = .none := by
  induction path with
  | nil => rfl
  | cons bit path ih => exact ih

/-- A path, and then another. -/
theorem find_append (nd : Node) (path more : List Bool) :
    nd.find (path ++ more) = (nd.find path).find more := by
  induction path generalizing nd with
  | nil => rfl
  | cons bit path ih => exact ih _

/-- A path, and one bit more. -/
theorem find_concat (nd : Node) (path : List Bool) (bit : Bool) :
    nd.find (path ++ [bit]) = (nd.find path).child bit := find_append nd path [bit]

/-- An inner node has no symbol. -/
theorem IsInner.term (h : nd.IsInner) : nd.term = Option.none := by
  unfold IsInner at h
  split at h
  · rfl
  · exact h.elim

/-- A path on which no code ends leads to an inner node. -/
theorem Inner.isInner (h : Inner root path) : (root.find path).IsInner := h path (List.prefix_refl path)

/-- The path of no bits. -/
theorem inner_nil : Inner root [] ↔ root.IsInner := by
  refine ⟨fun h => h.isInner, fun h begun hbegun => ?_⟩
  rw [List.prefix_nil.mp hbegun]
  exact h

theorem inner_concat (h : Inner root path) (hlast : (root.find (path ++ [bit])).IsInner) :
    Inner root (path ++ [bit]) := by
  intro begun hbegun
  rcases List.prefix_concat_iff.mp hbegun with rfl | hbegun
  · exact hlast
  · exact h begun hbegun

/-- One bit less, from the child. -/
theorem Inner.child (h : Inner nd (bit :: path)) : Inner (nd.child bit) path :=
  fun begun hbegun => h (bit :: begun) (List.cons_prefix_cons.mpr ⟨rfl, hbegun⟩)

/-! ## The tree of the rows -/

/-- A tree that a code is added to is one. -/
theorem add_ne_none (h : nd ≠ .none) (sym : Nat) (bits : List Bool) : nd.add sym bits ≠ .none := by
  cases nd with
  | none => exact absurd rfl h
  | node term ts id accept left right =>
    match bits with
    | [] => exact nofun
    | false :: bits => exact nofun
    | true :: bits => exact nofun

/-- A node is there, or is made. -/
theorem orNew_ne_none (nd : Node) : nd.orNew ≠ .none := by
  cases nd <;> exact nofun

/-- A node that is made has no symbol. -/
theorem term_find_orNew (nd : Node) (path : List Bool) : (nd.orNew.find path).term = (nd.find path).term := by
  cases nd with
  | node => rfl
  | none =>
    match path with
    | [] => rfl
    | false :: path => rfl
    | true :: path => rfl

/-- A symbol comes to the end of its bits, and to no other place. -/
theorem term_add (h : nd ≠ .none) (sym : Nat) (bits path : List Bool) :
    ((nd.add sym bits).find path).term = if path = bits then some sym else (nd.find path).term := by
  induction bits generalizing nd path with
  | nil =>
    cases nd with
    | none => exact absurd rfl h
    | node term ts id accept left right =>
      match path with
      | [] => rfl
      | false :: path => rfl
      | true :: path => rfl
  | cons bit bits ih =>
    cases nd with
    | none => exact absurd rfl h
    | node term ts id accept left right =>
      cases path with
      | nil => cases bit <;> rfl
      | cons step path =>
        have hleft := ih (orNew_ne_none left) path
        have hright := ih (orNew_ne_none right) path
        rw [term_find_orNew] at hleft hright
        cases bit <;> cases step <;> simp only [List.cons.injEq, true_and, Bool.false_eq_true, false_and,
          Bool.true_eq_false, if_false]
        · exact hleft
        · rfl
        · rfl
        · exact hright

/-- Nothing has been numbered, and no transitions built. -/
def Fresh : Node → Prop
  | .none => True
  | .node _ ts id accept left right => ts = [] ∧ id = Option.none ∧ accept = false ∧ left.Fresh ∧ right.Fresh

/-- A node that is made is fresh. -/
theorem fresh_new : new.Fresh := ⟨rfl, rfl, rfl, trivial, trivial⟩

theorem Fresh.orNew (h : nd.Fresh) : nd.orNew.Fresh := by
  cases nd with
  | none => exact fresh_new
  | node => exact h

theorem Fresh.add (h : nd.Fresh) (sym : Nat) (bits : List Bool) : (nd.add sym bits).Fresh := by
  induction bits generalizing nd with
  | nil =>
    cases nd with
    | none => exact trivial
    | node => exact h
  | cons bit bits ih =>
    cases nd with
    | none => exact trivial
    | node term ts id accept left right =>
      obtain ⟨hts, hid, haccept, hleft, hright⟩ := h
      cases bit with
      | false => exact ⟨hts, hid, haccept, ih hleft.orNew, hright⟩
      | true => exact ⟨hts, hid, haccept, hleft, ih hright.orNew⟩

/-! ## Numbers -/

/-- Fewer than eight ones: where a string may end. -/
theorem ones_iff : Ones path ↔ path.length ≤ 7 ∧ List.replicate path.length true = path := by
  unfold Ones
  rw [Nat.lt_succ_iff]
  exact and_congr_right fun _ => eq_comm

/-- A numbered tree, from the number of its first inner node to the one behind its last. -/
inductive Numbered : List Bool → Nat → Node → Nat → Prop where
  | leaf {path : List Bool} {n sym : Nat} {left right : Node} :
    Numbered path n (.node (some sym) [] .none false left right) n
  | inner {path : List Bool} {n m k : Nat} {accept : Bool} {left right : Node}
    (accept_eq : accept = true ↔ Ones path) (left_numbered : Numbered (path ++ [false]) (n + 1) left m)
    (right_numbered : Numbered (path ++ [true]) m right k) :
    Numbered path n (.node .none [] (some n) accept left right) k

/-- What `set_node_id` leaves of a fresh tree. -/
theorem numbered_of_setNodeId {nd nd' : Node} {n k : Nat} (h : nd.Fresh)
    (hset : nd.setNodeId path n = some (nd', k)) :
    Numbered path n nd' k ∧ ∀ more, (nd'.find more).term = (nd.find more).term := by
  induction nd generalizing nd' path n k with
  | none => cases hset
  | node term ts id accept left right ihl ihr =>
    obtain ⟨rfl, rfl, rfl, hleft, hright⟩ := h
    cases term with
    | some sym =>
      cases hset
      exact ⟨.leaf, fun _ => rfl⟩
    | none =>
      unfold setNodeId at hset
      obtain ⟨⟨left', m⟩, hl, hset⟩ := Option.bind_eq_some_iff.mp hset
      obtain ⟨⟨right', k'⟩, hr, hset⟩ := Option.bind_eq_some_iff.mp hset
      cases hset
      obtain ⟨hnl, htl⟩ := ihl hleft hl
      obtain ⟨hnr, htr⟩ := ihr hright hr
      refine ⟨.inner ?_ hnl hnr, fun more => ?_⟩
      · rw [ones_iff]
        by_cases hones : path.length ≤ 7 ∧ List.replicate path.length true = path
        · rw [if_pos hones]
          exact iff_of_true rfl hones
        · rw [if_neg hones]
          exact iff_of_false Bool.false_ne_true hones
      · match more with
        | [] => rfl
        | false :: more => exact htl more
        | true :: more => exact htr more

/-- The inner nodes and their paths, in the order in which they are numbered and printed. -/
def inners : List Bool → Node → List (List Bool × Node)
  | _, .none => []
  | _, .node (some _) _ _ _ _ _ => []
  | path, .node .none ts id accept left right =>
    (path, .node .none ts id accept left right) :: (inners (path ++ [false]) left ++ inners (path ++ [true]) right)

namespace Numbered

variable {n k : Nat} {x : List Bool × Node}

/-- As many numbers are given as there are inner nodes. -/
theorem count (h : Numbered path n nd k) : k = n + (inners path nd).length := by
  induction h with
  | leaf => rfl
  | inner _ _ _ ihl ihr =>
    rw [inners, List.length_cons, List.length_append]
    omega

/-- The number of an inner node is its place. -/
theorem target (h : Numbered path n nd k) {i : Nat} (hi : (inners path nd)[i]? = some x) :
    ∃ accept, x.2.target = some ⟨some (n + i), accept⟩ ∧ (accept = true ↔ Ones x.1) := by
  induction h generalizing i with
  | leaf => cases hi
  | @inner path n m k accept left right haccept hleft hright ihl ihr =>
    rw [inners] at hi
    cases i with
    | zero =>
      cases hi
      exact ⟨accept, rfl, haccept⟩
    | succ i =>
      rw [List.getElem?_cons_succ] at hi
      by_cases hlt : i < (inners (path ++ [false]) left).length
      · rw [List.getElem?_append_left hlt] at hi
        rw [show n + (i + 1) = n + 1 + i by omega]
        exact ihl hi
      · rw [List.getElem?_append_right (Nat.not_lt.mp hlt)] at hi
        have hcount := hleft.count
        rw [show n + (i + 1) = m + (i - (inners (path ++ [false]) left).length) by omega]
        exact ihr hi

/-- Every path on which no code ends leads to an inner node. -/
theorem mem (h : Numbered path n nd k) {more : List Bool} (hinner : Inner nd more) :
    (path ++ more, nd.find more) ∈ inners path nd := by
  induction h generalizing more with
  | leaf => exact (hinner [] List.nil_prefix).elim
  | inner _ _ _ ihl ihr =>
    rw [inners]
    match more with
    | [] =>
      rw [List.append_nil]
      exact List.mem_cons_self
    | false :: more =>
      have hmem := ihl hinner.child
      rw [List.append_assoc] at hmem
      exact List.mem_cons_of_mem _ (List.mem_append_left _ hmem)
    | true :: more =>
      have hmem := ihr hinner.child
      rw [List.append_assoc] at hmem
      exact List.mem_cons_of_mem _ (List.mem_append_right _ hmem)

/-- Every inner node is at the end of such a path. -/
theorem inner_of_mem (h : Numbered path n nd k) (hx : x ∈ inners path nd) :
    ∃ more, x = (path ++ more, nd.find more) ∧ Inner nd more := by
  induction h with
  | leaf => cases hx
  | @inner path n m k accept left right haccept hleft hright ihl ihr =>
    have hroot {bit : Bool} {more : List Bool}
        (hmore : Inner ((Node.node Option.none [] (some n) accept left right).child bit) more) :
        Inner (.node .none [] (some n) accept left right) (bit :: more) := by
      intro begun hbegun
      rcases List.prefix_cons_iff.mp hbegun with rfl | ⟨later, rfl, hlater⟩
      · exact trivial
      · exact hmore later hlater
    rw [inners] at hx
    rcases List.mem_cons.mp hx with rfl | hx
    · exact ⟨[], by rw [List.append_nil]; rfl, inner_nil.mpr trivial⟩
    · rcases List.mem_append.mp hx with hx | hx
      · obtain ⟨more, rfl, hmore⟩ := ihl hx
        exact ⟨false :: more, by rw [List.append_assoc]; rfl, hroot hmore⟩
      · obtain ⟨more, rfl, hmore⟩ := ihr hx
        exact ⟨true :: more, by rw [List.append_assoc]; rfl, hroot hmore⟩

/-- A leaf has no number. -/
theorem leaf_target (h : Numbered path n nd k) {more : List Bool} (hinner : Inner nd more) {sym : Nat}
    (hsym : (nd.find (more ++ [bit])).term = some sym) :
    (nd.find (more ++ [bit])).target = some ⟨Option.none, false⟩ := by
  have hhere {path : List Bool} {n k : Nat} {nd : Node} (h : Numbered path n nd k) (hsym : nd.term = some sym) :
      nd.target = some ⟨Option.none, false⟩ := by
    cases h with
    | leaf => rfl
    | inner => cases hsym
  induction h generalizing more with
  | leaf => exact (hinner [] List.nil_prefix).elim
  | inner _ hleft hright ihl ihr =>
    match more, bit with
    | [], false => exact hhere hleft hsym
    | [], true => exact hhere hright hsym
    | false :: more, _ => exact ihl hinner.child hsym
    | true :: more, _ => exact ihr hinner.child hsym

end Numbered

/-! ## Transitions -/

/-- One bit from a node, with the symbol met so far. -/
def advance (root : Node) (here : Node × Option Nat) (bit : Bool) : Option (Node × Option Nat) :=
  (go ((restart root here.1).child bit) here.2).map fun sym => ((restart root here.1).child bit, sym)

/-- The transition that is written down. -/
def transition (here : Node × Option Nat) : Transition :=
  if here.2 = some 256 then (Option.none, Option.none) else (here.1.target, here.2)

/-- The transitions of a node stand in the order of the bits they are for. -/
theorem traverse_get {left : Nat} {sym : Option Nat} {ts : List Transition}
    (h : traverse root left nd sym = some ts) : ts.length = 2 ^ left ∧ ∀ w < 2 ^ left, ∃ r,
      (bits left w).foldlM (advance root) (nd, sym) = some r ∧ ts[w]? = some (transition r) := by
  induction left generalizing nd sym ts with
  | zero =>
    cases h
    refine ⟨rfl, fun w hw => ?_⟩
    obtain rfl : w = 0 := by omega
    exact ⟨(nd, sym), rfl, rfl⟩
  | succ left ih =>
    unfold traverse at h
    match hrestart : restart root nd with
    | .none =>
      rw [hrestart] at h
      cases h
    | .node term ts' id accept lnode rnode =>
      rw [hrestart] at h
      obtain ⟨lsym, hlgo, h⟩ := Option.bind_eq_some_iff.mp h
      obtain ⟨ltrans, hl, h⟩ := Option.bind_eq_some_iff.mp h
      obtain ⟨rsym, hrgo, h⟩ := Option.bind_eq_some_iff.mp h
      obtain ⟨rtrans, hr, h⟩ := Option.bind_eq_some_iff.mp h
      cases h
      obtain ⟨hllength, hlget⟩ := ih hl
      obtain ⟨hrlength, hrget⟩ := ih hr
      have hladvance : advance root (nd, sym) false = some (lnode, lsym) := by
        unfold advance
        rw [hrestart]
        exact Option.map_eq_some_iff.mpr ⟨lsym, hlgo, rfl⟩
      have hradvance : advance root (nd, sym) true = some (rnode, rsym) := by
        unfold advance
        rw [hrestart]
        exact Option.map_eq_some_iff.mpr ⟨rsym, hrgo, rfl⟩
      refine ⟨by rw [List.length_append, hllength, hrlength, Nat.pow_succ]; omega, fun w hw => ?_⟩
      rw [bits, List.foldlM_cons]
      by_cases hlow : w < 2 ^ left
      · obtain ⟨r, hfold, hget⟩ := hlget w hlow
        rw [Nat.testBit_lt_two_pow hlow, hladvance]
        exact ⟨r, hfold, by rw [List.getElem?_append_left (hllength ▸ hlow), hget]⟩
      · obtain ⟨w, rfl⟩ := Nat.exists_eq_add_of_le (Nat.not_lt.mp hlow)
        have hw' : w < 2 ^ left := by
          rw [Nat.pow_succ] at hw
          omega
        obtain ⟨r, hfold, hget⟩ := hrget w hw'
        have hbits : bits left (2 ^ left + w) = bits left w := by
          rw [← bits_mod, Nat.add_mod_left, bits_mod]
        rw [Nat.testBit_two_pow_add_eq, Nat.testBit_lt_two_pow hw', hbits, Bool.not_false, hradvance]
        refine ⟨r, hfold, ?_⟩
        rw [List.getElem?_append_right (by omega), hllength, Nat.add_sub_cancel_left, hget]

/-- The rows that are printed are those of the inner nodes. -/
theorem print_get {n k : Nat} {nd' : Node} {rows : List (List Entry)} (h : Numbered path n nd k)
    (hbuild : buildTransitionTable root nd = some nd') (hprint : nd'.printTransitionTable = some rows) :
    rows.length = (inners path nd).length ∧ ∀ {i : Nat} {x : List Bool × Node},
      (inners path nd)[i]? = some x →
        ∃ ts, traverse root 4 x.2 Option.none = some ts ∧ rows[i]? = some (ts.map entry) := by
  induction h generalizing nd' rows with
  | leaf =>
    unfold buildTransitionTable at hbuild
    obtain ⟨ts, -, hbuild⟩ := Option.bind_eq_some_iff.mp hbuild
    obtain ⟨left', -, hbuild⟩ := Option.bind_eq_some_iff.mp hbuild
    obtain ⟨right', -, hbuild⟩ := Option.bind_eq_some_iff.mp hbuild
    cases hbuild
    cases hprint
    exact ⟨rfl, nofun⟩
  | inner _ hleft hright ihl ihr =>
    unfold buildTransitionTable at hbuild
    obtain ⟨ts, hts, hbuild⟩ := Option.bind_eq_some_iff.mp hbuild
    obtain ⟨left', hl, hbuild⟩ := Option.bind_eq_some_iff.mp hbuild
    obtain ⟨right', hr, hbuild⟩ := Option.bind_eq_some_iff.mp hbuild
    cases hbuild
    unfold printTransitionTable at hprint
    obtain ⟨lrows, hlrows, hprint⟩ := Option.bind_eq_some_iff.mp hprint
    obtain ⟨rrows, hrrows, hprint⟩ := Option.bind_eq_some_iff.mp hprint
    cases hprint
    obtain ⟨hllength, hlget⟩ := ihl hl hlrows
    obtain ⟨hrlength, hrget⟩ := ihr hr hrrows
    refine ⟨by rw [inners, List.length_cons, List.length_cons, List.length_append, List.length_append, hllength,
      hrlength], fun {i x} hi => ?_⟩
    rw [inners] at hi
    cases i with
    | zero =>
      cases hi
      exact ⟨ts, hts, rfl⟩
    | succ i =>
      rw [List.getElem?_cons_succ] at hi ⊢
      by_cases hlt : i < lrows.length
      · rw [List.getElem?_append_left (hllength ▸ hlt)] at hi
        rw [List.getElem?_append_left hlt]
        exact hlget hi
      · rw [List.getElem?_append_right (hllength ▸ Nat.not_lt.mp hlt), ← hllength] at hi
        rw [List.getElem?_append_right (Nat.not_lt.mp hlt)]
        exact hrget hi

end Node

/-! ## The table -/

open Node hiding none node

/-- A list that is mapped and never fails is mapped place by place. -/
theorem mapM_get {α β : Type} {f : α → Option β} {xs : List α} {ys : List β} (h : xs.mapM f = some ys) :
    ys.length = xs.length ∧ ∀ {i : Nat} {x : α}, xs[i]? = some x → ∃ y, f x = some y ∧ ys[i]? = some y := by
  induction xs generalizing ys with
  | nil =>
    cases h
    exact ⟨rfl, nofun⟩
  | cons x xs ih =>
    rw [List.mapM_cons] at h
    obtain ⟨y, hy, h⟩ := Option.bind_eq_some_iff.mp h
    obtain ⟨ys', hys, h⟩ := Option.bind_eq_some_iff.mp h
    cases h
    obtain ⟨hlength, hget⟩ := ih hys
    refine ⟨congrArg Nat.succ hlength, fun {i a} hi => ?_⟩
    cases i with
    | zero =>
      cases hi
      exact ⟨y, hy, rfl⟩
    | succ i => exact hget hi

/-- The tree a table is printed of. -/
structure Draws (rows : List Row) (table : List (List Decoding.Node)) (root : Node) : Prop where
  numbered : ∃ k, Numbered [] 0 root k
  term_eq : ∀ path, (root.find path).term = ((tree rows).find path).term
  length_eq : table.length = (inners [] root).length
  cell : ∀ {i : Nat} {x : List Bool × Node}, (inners [] root)[i]? = some x → ∀ w < 16, ∃ r node,
    (bits 4 w).foldlM (advance root) (x.2, none) = some r ∧ (entry (transition r)).node = some node ∧
      (table.getD i []).getD w ⟨0, Decoding.Flag.failed, 0⟩ = node

/-- The tree of the rows is fresh. -/
theorem tree_fresh (rows : List Row) : (tree rows).Fresh := by
  suffices h : ∀ {root : Node}, root.Fresh →
      (rows.foldl (fun root row => root.add row.symbol row.bits) root).Fresh from h fresh_new
  induction rows with
  | nil => exact fun h => h
  | cons row rows ih => exact fun h => ih (h.add _ _)

/-- A table that is printed is drawn of a tree. -/
theorem draws_of_decodeTable {rows : List Row} {table : List (List Decoding.Node)}
    (h : decodeTable rows = some table) : ∃ root, Draws rows table root := by
  unfold decodeTable at h
  obtain ⟨⟨root, k⟩, hset, h⟩ := Option.bind_eq_some_iff.mp h
  obtain ⟨root', hbuild, h⟩ := Option.bind_eq_some_iff.mp h
  obtain ⟨printed, hprint, h⟩ := Option.bind_eq_some_iff.mp h
  obtain ⟨hnumbered, hterm⟩ := numbered_of_setNodeId (tree_fresh rows) hset
  obtain ⟨hlength, hget⟩ := print_get hnumbered hbuild hprint
  obtain ⟨hlength', hget'⟩ := mapM_get h
  refine ⟨root, ⟨k, hnumbered⟩, hterm, hlength'.trans hlength, fun {i x} hi w hw => ?_⟩
  obtain ⟨ts, hts, hrow⟩ := hget hi
  obtain ⟨cells, hcells, htable⟩ := hget' hrow
  obtain ⟨-, hfold⟩ := traverse_get hts
  obtain ⟨r, hr, hentry⟩ := hfold w hw
  obtain ⟨-, hcell⟩ := mapM_get hcells
  obtain ⟨node, hnode, hcellsw⟩ := hcell (by rw [List.getElem?_map, hentry]; rfl)
  refine ⟨r, node, hr, hnode, ?_⟩
  rw [List.getD_eq_getElem?_getD, List.getD_eq_getElem?_getD, htable, Option.getD_some, hcellsw, Option.getD_some]

/-- The last row is added to the tree of those before. -/
theorem tree_concat (rows : List Row) (row : Row) :
    tree (rows ++ [row]) = (tree rows).add row.symbol row.bits := List.foldl_concat ..

/-- The tree of no rows is a root. -/
theorem tree_ne_none (rows : List Row) : tree rows ≠ .none := by
  induction rows using List.reverseRecOn with
  | nil => exact nofun
  | append_singleton rows row ih =>
    rw [tree_concat]
    exact add_ne_none ih _ _

/-- A symbol of the tree is that of a row with these bits. -/
theorem row_of_term {rows : List Row} {path : List Bool} {sym : Nat}
    (h : ((tree rows).find path).term = some sym) : ∃ row ∈ rows, row.symbol = sym ∧ row.bits = path := by
  induction rows using List.reverseRecOn with
  | nil =>
    match path with
    | [] => cases h
    | false :: path =>
      have hnone : ((tree []).find (false :: path)).term = Option.none := congrArg Node.term (find_none path)
      exact nomatch h.symm.trans hnone
    | true :: path =>
      have hnone : ((tree []).find (true :: path)).term = Option.none := congrArg Node.term (find_none path)
      exact nomatch h.symm.trans hnone
  | append_singleton rows row ih =>
    rw [tree_concat, term_add (tree_ne_none rows)] at h
    by_cases hpath : path = row.bits
    · rw [if_pos hpath] at h
      exact ⟨row, List.mem_append_right _ List.mem_cons_self, Option.some.inj h, hpath.symm⟩
    · rw [if_neg hpath] at h
      obtain ⟨row', hmem, hrow⟩ := ih h
      exact ⟨row', List.mem_append_left _ hmem, hrow⟩

/-- At the end of the bits of a row there is a symbol. -/
theorem term_of_row {rows : List Row} {row : Row} (h : row ∈ rows) :
    ((tree rows).find row.bits).term ≠ Option.none := by
  induction rows using List.reverseRecOn with
  | nil => cases h
  | append_singleton rows row' ih =>
    rw [tree_concat, term_add (tree_ne_none rows)]
    by_cases hbits : row.bits = row'.bits
    · rw [if_pos hbits]
      exact nofun
    · rw [if_neg hbits]
      rcases List.mem_append.mp h with hmem | hmem
      · exact ih hmem
      · rw [List.mem_singleton.mp hmem] at hbits
        exact absurd rfl hbits

/-! ## The codes -/

/-- The bits of a symbol, as the encoder has them. -/
def wordOf (table : List Encoding.Symbol) (symbol : Nat) : List Bool :=
  bits (table.getD symbol ⟨0, 0⟩).numBits (table.getD symbol ⟨0, 0⟩).code.toNat

/-- The bits of a byte. -/
def codeOf (table : List Encoding.Symbol) (byte : UInt8) : List Bool := wordOf table byte.toNat

/-- A code table that agrees with itself: each symbol has one row, and its bits are its number. -/
structure Coherent (rows : List Row) : Prop where
  symbols : (rows.map Row.symbol).Nodup
  bits_eq : ∀ row ∈ rows, row.bits = bits row.numBits row.code

/-- Two rows of one symbol are one. -/
theorem Coherent.eq_of_symbol {rows : List Row} (h : Coherent rows) {row row' : Row} (hrow : row ∈ rows)
    (hrow' : row' ∈ rows) (hsymbol : row.symbol = row'.symbol) : row = row' :=
  List.inj_on_of_nodup_map h.symbols hrow hrow' hsymbol

/-- Every symbol has its place in the table, and what stands at a place is of a row of its symbol. -/
theorem setSymbol_get {rows : List Row} {symbols table : List (Option (Nat × Nat))}
    (h : rows.foldlM setSymbol symbols = some table) : table.length = symbols.length ∧
      (∀ row ∈ rows, row.symbol < symbols.length) ∧
        ∀ {i : Nat} {code numBits : Nat}, table[i]? = some (some (code, numBits)) →
          symbols[i]? = some (some (code, numBits)) ∨
            ∃ row ∈ rows, row.symbol = i ∧ row.code = code ∧ row.numBits = numBits := by
  induction rows generalizing symbols with
  | nil =>
    cases h
    exact ⟨rfl, nofun, .inl⟩
  | cons row rows ih =>
    rw [List.foldlM_cons] at h
    obtain ⟨symbols', hset, h⟩ := Option.bind_eq_some_iff.mp h
    unfold setSymbol at hset
    by_cases hplace : row.symbol < symbols.length
    · rw [if_pos hplace] at hset
      cases hset
      obtain ⟨hlength, hplaces, hget⟩ := ih h
      rw [List.length_set] at hlength hplaces
      refine ⟨hlength, List.forall_mem_cons.mpr ⟨hplace, hplaces⟩, fun {i code numBits} hi => ?_⟩
      rcases hget hi with hold | ⟨row', hmem, hrow'⟩
      · by_cases heq : row.symbol = i
        · subst heq
          rw [List.getElem?_set_self hplace] at hold
          cases hold
          exact .inr ⟨row, List.mem_cons_self, rfl, rfl, rfl⟩
        · rw [List.getElem?_set_ne heq] at hold
          exact .inl hold
      · exact .inr ⟨row', List.mem_cons_of_mem _ hmem, hrow'⟩
    · rw [if_neg hplace] at hset
      cases hset

/-- Every symbol has a row, and its code is that of the row. -/
theorem row_of_symbol {rows : List Row} {table : List Encoding.Symbol} (hrows : Coherent rows)
    (h : encodeTable rows = some table) {symbol : Nat} (hsymbol : symbol < 257) :
    ∃ row ∈ rows, row.symbol = symbol ∧ wordOf table symbol = row.bits := by
  unfold encodeTable at h
  obtain ⟨symbols, hfold, h⟩ := Option.bind_eq_some_iff.mp h
  obtain ⟨hlength, -, hget⟩ := setSymbol_get hfold
  rw [List.length_replicate] at hlength
  have hi : symbols[symbol]? = some symbols[symbol] := List.getElem?_eq_getElem (hlength ▸ hsymbol)
  obtain ⟨entry, hentry, htable⟩ := (mapM_get h).2 hi
  unfold symbolOf at hentry
  split at hentry
  · cases hentry
  · next code numBits hcell =>
    rw [hcell] at hi
    by_cases hfits : code < 2 ^ 32
    · rw [if_pos hfits] at hentry
      cases hentry
      rcases hget hi with hnone | ⟨row, hmem, rfl, rfl, rfl⟩
      · rw [List.getElem?_replicate_of_lt hsymbol] at hnone
        cases hnone
      · refine ⟨row, hmem, rfl, ?_⟩
        rw [wordOf, List.getD_eq_getElem?_getD, htable, Option.getD_some, hrows.bits_eq row hmem]
        exact congrArg _ (UInt32.toNat_ofNat_of_lt' hfits)
    · rw [if_neg hfits] at hentry
      cases hentry

/-- The code of the symbol of a row is its bits. -/
theorem word_of_row {rows : List Row} {table : List Encoding.Symbol} (hrows : Coherent rows)
    (h : encodeTable rows = some table) {row : Row} (hrow : row ∈ rows) :
    row.symbol < 257 ∧ wordOf table row.symbol = row.bits := by
  have hplace : row.symbol < 257 := by
    unfold encodeTable at h
    obtain ⟨symbols, hfold, -⟩ := Option.bind_eq_some_iff.mp h
    have hplaces := (setSymbol_get hfold).2.1 row hrow
    rwa [List.length_replicate] at hplaces
  obtain ⟨row', hrow', hsymbol, hword⟩ := row_of_symbol hrows h hplace
  rw [hrows.eq_of_symbol hrow' hrow hsymbol] at hword
  exact ⟨hplace, hword⟩

/-! ## The automaton of a table -/

/-- `table[state][bits]`. -/
def cellAt (table : List (List Decoding.Node)) (state : UInt8) (w : Fin 16) : Decoding.Node :=
  (table.getD state.toNat []).getD w.val ⟨0, Decoding.Flag.failed, 0⟩

/-- A table as an automaton over half bytes. -/
def automaton (table : List (List Decoding.Node)) : Automaton UInt8 (Fin 16) UInt8 where
  step state w :=
    let node := cellAt table state w
    if node.has Decoding.Flag.failed then none else some (node.state, emitted node)

/-- What a table decodes half bytes to, from a state: each node says whether the string may end behind it. -/
def decodes (table : List (List Decoding.Node)) : List (Fin 16) → (state : UInt8) → (accept : Bool) →
    Option (List UInt8)
  | [], _, accept => if accept then some [] else none
  | w :: ws, state, _ =>
    let node := cellAt table state w
    if node.has Decoding.Flag.failed then none
    else (decodes table ws node.state (node.has Decoding.Flag.accepted)).map ((emitted node).toList ++ ·)

section Drawn

variable {rows : List Row} {table : List (List Decoding.Node)} {root nd nd' : Node} {k : Nat}
  {path read : List Bool} {sym sym' : Option Nat}

/-- Where the bits read since the last code lead to: along the path, or to the end of a code and back to the
root. -/
def Stands (root nd : Node) (path : List Bool) : Prop :=
  (Inner root path ∧ nd = root.find path) ∨
    path = [] ∧ (∃ sym, nd.term = some sym) ∧ nd.target = some ⟨none, false⟩

/-- The code of the symbol met, if there is one. -/
def Met (root : Node) (sym : Option Nat) (read : List Bool) : Prop :=
  match sym with
  | none => read = []
  | some sym => (root.find read).term = some sym

/-- A node at the end of a code starts over at the root. -/
theorem restart_stands (hroot : Inner root []) (h : Stands root nd path) :
    Inner root path ∧ restart root nd = root.find path := by
  rcases h with ⟨hinner, rfl⟩ | ⟨rfl, ⟨sym, hsym⟩, -⟩
  · refine ⟨hinner, ?_⟩
    have hterm := hinner.isInner.term
    generalize root.find path = nd at hterm ⊢
    cases nd with
    | none => rfl
    | node term ts id accept left right =>
      cases hterm
      rfl
  · refine ⟨hroot, ?_⟩
    cases nd with
    | none => cases hsym
    | node term ts id accept left right =>
      cases hsym
      rfl

/-- A bit goes on along the path, or ends a code. -/
theorem advance_stands (hnumbered : Numbered [] 0 root k) (hroot : Inner root []) {bit : Bool}
    (h : Stands root nd path) (hmet : Met root sym read) (hadvance : advance root (nd, sym) bit = some (nd', sym')) :
    ∃ read' path', Stands root nd' path' ∧ Met root sym' read' ∧ read ++ path ++ [bit] = read' ++ path' := by
  obtain ⟨hinner, hrestart⟩ := restart_stands hroot h
  unfold advance at hadvance
  rw [hrestart, ← find_concat] at hadvance
  obtain ⟨sym'', hgo, heq⟩ := Option.map_eq_some_iff.mp hadvance
  cases heq
  match hchild : root.find (path ++ [bit]) with
  | .none =>
    rw [hchild] at hgo
    cases hgo
  | .node (some term) ts id accept left right =>
    rw [hchild] at hgo
    have hterm : (root.find (path ++ [bit])).term = some term := by
      rw [hchild]
      rfl
    cases sym with
    | some sym => cases hgo
    | none =>
      cases hgo
      refine ⟨path ++ [bit], [], .inr ⟨rfl, ⟨term, ?_⟩, ?_⟩, hterm, ?_⟩
      · rw [← hchild]
        exact hterm
      · rw [← hchild]
        exact hnumbered.leaf_target hinner hterm
      · rw [show read = [] from hmet, List.nil_append, List.append_nil]
  | .node .none ts id accept left right =>
    rw [hchild] at hgo
    have hsym : sym' = sym := (Option.some.inj hgo).symm
    subst hsym
    have hlast : (root.find (path ++ [bit])).IsInner := by
      rw [hchild]
      exact trivial
    refine ⟨read, path ++ [bit], .inl ⟨inner_concat hinner hlast, hchild.symm⟩, hmet, ?_⟩
    rw [List.append_assoc]

/-- Several bits go on along paths and end codes. -/
theorem advances_stand (hnumbered : Numbered [] 0 root k) (hroot : Inner root []) {word : List Bool}
    (h : Stands root nd path) (hmet : Met root sym read)
    (hadvance : word.foldlM (advance root) (nd, sym) = some (nd', sym')) :
    ∃ read' path', Stands root nd' path' ∧ Met root sym' read' ∧ read ++ path ++ word = read' ++ path' := by
  induction word generalizing nd sym path read with
  | nil =>
    cases hadvance
    exact ⟨read, path, h, hmet, List.append_nil _⟩
  | cons bit word ih =>
    rw [List.foldlM_cons] at hadvance
    obtain ⟨⟨nd₁, sym₁⟩, hfirst, hrest⟩ := Option.bind_eq_some_iff.mp hadvance
    obtain ⟨read₁, path₁, hstands, hmet₁, heq⟩ := advance_stands hnumbered hroot h hmet hfirst
    obtain ⟨read', path', hstands', hmet', heq'⟩ := ih hstands hmet₁ hrest
    refine ⟨read', path', hstands', hmet', ?_⟩
    rw [← heq', ← heq, List.append_assoc _ [bit]]
    rfl

/-! ### The entries -/

/-- The flags of the entries, one after another. -/
theorem flags_eq : ((0 ||| Decoding.Flag.failed) &&& Decoding.Flag.failed != 0) = true ∧
    ((Decoding.Flag.symbol ||| Decoding.Flag.failed) &&& Decoding.Flag.failed != 0) = true := by decide

/-- An entry that ends the string fails. -/
theorem node_fails {node : Decoding.Node} (h : (entry (none, sym)).node = some node) :
    node.has Decoding.Flag.failed = true := by
  unfold Entry.node at h
  split at h
  · cases h
    cases sym with
    | none => exact flags_eq.1
    | some out => exact flags_eq.2
  · cases h

/-- The flags of an entry that does not fail. -/
def flagsOf : (emits accepts : Bool) → UInt8
  | false, false => 0
  | false, true => 0 ||| Decoding.Flag.accepted
  | true, false => Decoding.Flag.symbol
  | true, true => Decoding.Flag.symbol ||| Decoding.Flag.accepted

/-- The flags are told apart. -/
theorem flagsOf_has : ∀ emits accepts : Bool, (flagsOf emits accepts &&& Decoding.Flag.failed != 0) = false ∧
    (flagsOf emits accepts &&& Decoding.Flag.accepted != 0) = accepts ∧
      (flagsOf emits accepts &&& Decoding.Flag.symbol != 0) = emits := by decide

/-- The flags of an entry that goes on, as `entry` sets them. -/
theorem entry_flags (id : Option Nat) (accept : Bool) (sym : Option Nat) :
    (entry (some ⟨id, accept⟩, sym)).flags = flagsOf sym.isSome (id.isNone || accept) := by
  cases id <;> cases sym <;> cases accept <;> rfl

/-- What an entry that goes on says. -/
theorem node_moves {id : Option Nat} {accept : Bool} {node : Decoding.Node}
    (h : (entry (some ⟨id, accept⟩, sym)).node = some node) :
    node.has Decoding.Flag.failed = false ∧ node.has Decoding.Flag.accepted = (id.isNone || accept) ∧
      node.state.toNat = id.getD 0 ∧ (∀ out ∈ sym, out < 256) ∧ emitted node = sym.map UInt8.ofNat := by
  unfold Entry.node at h
  split at h
  · next hfits =>
    cases h
    have hid : (entry (some ⟨id, accept⟩, sym)).id = id.getD 0 := by
      cases id <;> cases sym <;> rfl
    have hout : (entry (some ⟨id, accept⟩, sym)).out = sym.getD 0 := by
      cases id <;> cases sym <;> rfl
    obtain ⟨hfailed, haccepted, hsymbol⟩ := flagsOf_has sym.isSome (id.isNone || accept)
    rw [← entry_flags id accept sym] at hfailed haccepted hsymbol
    refine ⟨hfailed, haccepted, ?_, ?_, ?_⟩
    · rw [UInt8.toNat_ofNat', Nat.mod_eq_of_lt hfits.1, hid]
    · rintro out rfl
      exact (show _ = out from hout) ▸ hfits.2
    · unfold emitted Decoding.Node.has
      rw [hsymbol, hout]
      cases sym <;> rfl
  · cases h

/-! ### The states -/

/-- Where a state stands. A state without a row is taken to stand at the end of the string. -/
def pathOf (root : Node) (stop : List Bool) (state : UInt8) : List Bool :=
  match (inners [] root)[state.toNat]? with
  | some x => x.1
  | none => stop

variable (stop : List Bool)

/-- The inner nodes behind the rows. -/
theorem inners_get (hnumbered : Numbered [] 0 root k) (hinner : Inner root path) : ∃ i accept,
    (inners [] root)[i]? = some (path, root.find path) ∧ (root.find path).target = some ⟨some i, accept⟩ ∧
      (accept = true ↔ Ones path) := by
  have hmem := hnumbered.mem hinner
  rw [List.nil_append] at hmem
  obtain ⟨i, hi⟩ := List.mem_iff_getElem?.mp hmem
  obtain ⟨accept, htarget, haccept⟩ := hnumbered.target hi
  rw [Nat.zero_add] at htarget
  exact ⟨i, accept, hi, htarget, haccept⟩

/-- The root comes first. -/
theorem pathOf_zero (hroot : Inner root []) : pathOf root stop 0 = [] := by
  have hinner := inner_nil.mp hroot
  unfold pathOf
  cases root with
  | none => exact hinner.elim
  | node term ts id accept left right =>
    cases term with
    | some sym => exact hinner.elim
    | none => rfl

/-- A transition to where the bits lead goes to the state that stands there, and accepts where it may end. -/
theorem moves_stands (hnumbered : Numbered [] 0 root k) (hroot : Inner root []) (h : Stands root nd path)
    {node : Decoding.Node} (hnode : (entry (nd.target, sym)).node = some node) :
    node.has Decoding.Flag.failed = false ∧ pathOf root stop node.state = path ∧
      (node.has Decoding.Flag.accepted = true ↔ Ones path) ∧ (∀ out ∈ sym, out < 256) ∧
        emitted node = sym.map UInt8.ofNat := by
  rcases h with ⟨hinner, rfl⟩ | ⟨rfl, -, htarget⟩
  · obtain ⟨i, accept, hi, htarget, haccept⟩ := inners_get hnumbered hinner
    rw [htarget] at hnode
    obtain ⟨hfailed, haccepted, hstate, hfits, hemitted⟩ := node_moves hnode
    refine ⟨hfailed, ?_, ?_, hfits, hemitted⟩
    · unfold pathOf
      rw [hstate, Option.getD_some, hi]
    · rw [haccepted, Option.isNone_some, Bool.false_or, haccept]
  · rw [htarget] at hnode
    obtain ⟨hfailed, haccepted, hstate, hfits, hemitted⟩ := node_moves hnode
    refine ⟨hfailed, ?_, ?_, hfits, hemitted⟩
    · rw [show node.state = 0 from UInt8.toNat.inj hstate]
      exact pathOf_zero stop hroot
    · rw [haccepted]
      exact iff_of_true rfl ⟨by decide, rfl⟩

/-- **What a node of the table says** of a state that stands on a path: a code read whole on the way, and the state
that stands at what is left; or it fails, where the string has ended on the way. -/
theorem cell_cases (h : Draws rows table root) (hroot : Inner root []) (state : UInt8) (w : Fin 16) :
    ((cellAt table state w).has Decoding.Flag.failed = true ∧
        (pathOf root stop state = stop ∨ ∃ read path, (root.find read).term = some 256 ∧
          pathOf root stop state ++ bits 4 w.val = read ++ path)) ∨
      ∃ sym read, Met root sym read ∧ (cellAt table state w).has Decoding.Flag.failed = false ∧
        (∀ out ∈ sym, out < 256) ∧ emitted (cellAt table state w) = sym.map UInt8.ofNat ∧
        pathOf root stop state ++ bits 4 w.val = read ++ pathOf root stop (cellAt table state w).state ∧
        ((cellAt table state w).has Decoding.Flag.accepted = true ↔
          Ones (pathOf root stop (cellAt table state w).state)) := by
  obtain ⟨k, hnumbered⟩ := h.numbered
  match hx : (inners [] root)[state.toNat]? with
  | none =>
    refine .inl ⟨?_, .inl ?_⟩
    · have hlength := List.getElem?_eq_none_iff.mp hx
      rw [cellAt, List.getD_eq_default table [] (h.length_eq ▸ hlength), List.getD_nil]
      decide
    · unfold pathOf
      rw [hx]
  | some x =>
    obtain ⟨path, rfl, hinner⟩ := hnumbered.inner_of_mem (List.mem_of_getElem? hx)
    rw [List.nil_append] at hx
    have hpath : pathOf root stop state = path := by
      unfold pathOf
      rw [hx]
    obtain ⟨⟨nd, sym⟩, node, hfold, hnode, hcell⟩ := h.cell hx w.val w.isLt
    obtain ⟨read, path', hstands, hmet, heq⟩ :=
      advances_stand hnumbered hroot (.inl ⟨hinner, rfl⟩) (show Met root none [] from rfl) hfold
    rw [List.nil_append] at heq
    rw [hpath, show cellAt table state w = node from hcell]
    unfold transition at hnode
    by_cases hstop : sym = some 256
    · rw [if_pos hstop] at hnode
      subst hstop
      exact .inl ⟨node_fails hnode, .inr ⟨read, path', hmet, heq⟩⟩
    · rw [if_neg hstop] at hnode
      obtain ⟨hfailed, hstate, haccepted, hfits, hemitted⟩ :=
        moves_stands stop hnumbered hroot hstands hnode
      refine .inr ⟨sym, read, hmet, hfailed, hfits, hemitted, ?_, ?_⟩
      · rw [hstate, heq]
      · rw [hstate, haccepted]

end Drawn

/-! ## What is decoded -/

section Generated

variable {rows : List Row} {encode : List Encoding.Symbol} {table : List (List Decoding.Node)} {root : Node}

/-- The code of a symbol is where the symbol stands in the tree. -/
theorem word_of_term (hrows : Coherent rows) (hencode : encodeTable rows = some encode) (h : Draws rows table root)
    {read : List Bool} {sym : Nat} (hterm : (root.find read).term = some sym) :
    sym < 257 ∧ wordOf encode sym = read := by
  rw [h.term_eq] at hterm
  obtain ⟨row, hrow, rfl, rfl⟩ := row_of_term hterm
  exact word_of_row hrows hencode hrow

/-- No code is empty, so the root is no leaf. -/
theorem root_inner (hrows : Coherent rows) (hencode : encodeTable rows = some encode) (h : Draws rows table root)
    (hfree : PrefixFree (codeOf encode) (wordOf encode 256)) : Inner root [] := by
  refine inner_nil.mpr ?_
  obtain ⟨k, hnumbered⟩ := h.numbered
  cases hnumbered with
  | inner => exact trivial
  | @leaf path n sym left right =>
    obtain ⟨hplace, hword⟩ := word_of_term hrows hencode h (show (Node.find _ []).term = some sym from rfl)
    by_cases hstop : sym = 256
    · subst hstop
      exact absurd (hword ▸ List.nil_prefix) (hfree.stop_not_prefix 0)
    · have hsym : (UInt8.ofNat sym).toNat = sym := by
        rw [UInt8.toNat_ofNat']
        omega
      refine absurd ?_ (hfree.not_prefix_stop (UInt8.ofNat sym))
      rw [codeOf, hsym, hword]
      exact List.nil_prefix

/-- **The automaton that is printed tracks the code it is printed for.** -/
theorem automaton_tracks (hrows : Coherent rows) (hencode : encodeTable rows = some encode)
    (h : Draws rows table root) (hfree : PrefixFree (codeOf encode) (wordOf encode 256)) :
    (automaton table).Tracks (codeOf encode) (wordOf encode 256) (fun w => bits 4 w.val)
      (pathOf root (wordOf encode 256)) := by
  have hroot := root_inner hrows hencode h hfree
  refine { step_some := fun {q w q' out} hstep => ?_, step_none := fun {q w} hstep => ?_, internal := fun q a => ?_ }
  · rcases cell_cases (wordOf encode 256) h hroot q w with
      ⟨hfailed, -⟩ | ⟨sym, read, hmet, hfailed, hfits, hemitted, heq, -⟩
    · unfold automaton at hstep
      dsimp only at hstep
      rw [if_pos hfailed] at hstep
      cases hstep
    · unfold automaton at hstep
      dsimp only at hstep
      rw [hfailed, if_neg Bool.false_ne_true, hemitted] at hstep
      cases hstep
      rw [heq]
      refine congrArg (· ++ _) ?_
      cases sym with
      | none => exact hmet
      | some sym =>
        obtain ⟨-, hword⟩ := word_of_term hrows hencode h (show (root.find read).term = some sym from hmet)
        have hsym : (UInt8.ofNat sym).toNat = sym := by
          rw [UInt8.toNat_ofNat']
          exact Nat.mod_eq_of_lt (hfits sym rfl)
        rw [Option.map_some, Option.toList, message_cons, message_nil, List.append_nil, codeOf, hsym, hword]
  · rcases cell_cases (wordOf encode 256) h hroot q w with
      ⟨-, hstop | ⟨read, path, hterm, heq⟩⟩ | ⟨sym, read, -, hfailed, -⟩
    · rw [hstop]
      exact List.prefix_append _ _
    · rw [heq, (word_of_term hrows hencode h hterm).2]
      exact List.prefix_append _ _
    · unfold automaton at hstep
      dsimp only at hstep
      rw [hfailed, if_neg Bool.false_ne_true] at hstep
      cases hstep
  · intro hbegins
    unfold pathOf at hbegins
    split at hbegins
    · next x hx =>
      obtain ⟨k, hnumbered⟩ := h.numbered
      obtain ⟨path, rfl, hinner⟩ := hnumbered.inner_of_mem (List.mem_of_getElem? hx)
      obtain ⟨row, hrow, hsymbol, hword⟩ := row_of_symbol hrows hencode (Nat.lt_succ_of_lt a.toNat_lt)
      have hterm := (hinner (codeOf encode a) hbegins).term
      rw [h.term_eq, codeOf, hword] at hterm
      exact term_of_row hrow hterm
    · exact hfree.not_prefix_stop a hbegins

/-- What is decoded is what the automaton emits, where it may end. -/
theorem decodes_eq_some (stop : List Bool) (h : Draws rows table root) (hroot : Inner root [])
    {ws : List (Fin 16)} {state : UInt8} {accept : Bool} {xs : List UInt8} :
    decodes table ws state accept = some xs ↔ ∃ state', (automaton table).run state ws = some (xs, state') ∧
      (if ws = [] then accept = true else Ones (pathOf root stop state')) := by
  induction ws generalizing state accept xs with
  | nil =>
    unfold decodes
    by_cases haccept : accept = true
    · rw [if_pos haccept]
      refine ⟨fun heq => ⟨state, ?_, haccept⟩, fun ⟨state', hrun, _⟩ => ?_⟩
      · rw [← Option.some.inj heq]
        rfl
      · cases hrun
        rfl
    · rw [if_neg haccept]
      exact ⟨nofun, fun ⟨_, _, haccept'⟩ => absurd haccept' haccept⟩
  | cons w ws ih =>
    unfold decodes
    dsimp only
    rcases cell_cases stop h hroot state w with
      ⟨hfailed, -⟩ | ⟨sym, read, -, hfailed, -, -, -, haccepted⟩
    · have hstep : (automaton table).step state w = none := if_pos hfailed
      rw [if_pos hfailed, Automaton.run_cons_none ws hstep]
      exact ⟨nofun, nofun⟩
    · have hstep : (automaton table).step state w =
          some ((cellAt table state w).state, emitted (cellAt table state w)) := by
        unfold automaton
        dsimp only
        rw [hfailed, if_neg Bool.false_ne_true]
      rw [hfailed, if_neg Bool.false_ne_true, Automaton.run_cons ws hstep, Option.map_eq_some_iff]
      simp only [List.cons_ne_nil, if_false]
      have hends {state' : UInt8} {ys : List UInt8}
          (hrun : (automaton table).run (cellAt table state w).state ws = some (ys, state')) :
          (if ws = [] then (cellAt table state w).has Decoding.Flag.accepted = true
            else Ones (pathOf root stop state')) ↔ Ones (pathOf root stop state') := by
        by_cases hws : ws = []
        · subst hws
          cases hrun
          rw [if_pos rfl, haccepted]
        · rw [if_neg hws]
      refine ⟨fun ⟨ys, hys, heq⟩ => ?_, fun ⟨state', hrun, hones⟩ => ?_⟩
      · obtain ⟨state', hrun, hend⟩ := ih.mp hys
        refine ⟨state', ?_, (hends hrun).mp hend⟩
        rw [hrun, Option.map_some, heq]
      · obtain ⟨⟨ys, state''⟩, hrest, heq⟩ := Option.map_eq_some_iff.mp hrun
        cases heq
        exact ⟨ys, ih.mpr ⟨_, hrest, (hends hrest).mpr hones⟩, rfl⟩

/-- What a table decodes, of whatever tree it is printed. -/
theorem decodes_iff (hrows : Coherent rows) (hencode : encodeTable rows = some encode) (h : Draws rows table root)
    (hfree : PrefixFree (codeOf encode) (wordOf encode 256))
    (hstop : ∃ n, 8 ≤ n ∧ wordOf encode 256 = List.replicate n true) (bs xs : List UInt8) :
    decodes table (nibbles bs) 0 false = some xs ↔
      bs ≠ [] ∧ ∃ pad, Ones pad ∧ bytesBits bs = message (codeOf encode) xs ++ pad := by
  have htracks := automaton_tracks hrows hencode h hfree
  have hroot := root_inner hrows hencode h hfree
  have hstart : pathOf root (wordOf encode 256) 0 = [] := pathOf_zero _ hroot
  have hnibbles : nibbles bs = [] ↔ bs = [] := by
    cases bs with
    | nil => exact iff_of_true rfl rfl
    | cons b bs => exact iff_of_false (List.cons_ne_nil _ _) (List.cons_ne_nil _ _)
  rw [decodes_eq_some (wordOf encode 256) h hroot]
  constructor
  · rintro ⟨state, hrun, hend⟩
    have hne : bs ≠ [] := fun hnil => by
      rw [if_pos (hnibbles.mpr hnil)] at hend
      cases hend
    rw [if_neg (mt hnibbles.mp hne)] at hend
    refine ⟨hne, _, hend, ?_⟩
    rw [← htracks.run_sound hrun, hstart, nibbles_bits, List.nil_append]
  · rintro ⟨hne, pad, hpad, hbits⟩
    have hpadding : Padding (wordOf encode 256) pad := by
      obtain ⟨n, hn, hones⟩ := hstop
      have hlt := hpad.1
      rw [hones, hpad.2]
      refine ⟨⟨List.replicate (n - pad.length) true, ?_⟩, fun heq => ?_⟩
      · rw [← List.replicate_add, Nat.add_sub_cancel' (by omega)]
      · have hlength := congrArg List.length heq
        rw [List.length_replicate, List.length_replicate] at hlength
        omega
    have hcomplete : pathOf root (wordOf encode 256) 0 ++ (nibbles bs).flatMap (fun w => bits 4 w.val) =
        message (codeOf encode) xs ++ pad := by
      rw [hstart, nibbles_bits, hbits, List.nil_append]
    obtain ⟨state, hrun, hpath⟩ := htracks.run_complete hfree hpadding hcomplete
    refine ⟨state, hrun, ?_⟩
    rw [if_neg (mt hnibbles.mp hne), hpath]
    exact hpad

end Generated

theorem tables_of_generate {rows : List Row} {encode : List Encoding.Symbol} {table : List (List Decoding.Node)}
    (h : generate rows = some (encode, table)) : encodeTable rows = some encode ∧ decodeTable rows = some table := by
  obtain ⟨encode', hencode, h⟩ := Option.bind_eq_some_iff.mp h
  obtain ⟨table', hdecode, h⟩ := Option.bind_eq_some_iff.mp h
  obtain ⟨rfl, rfl⟩ := Prod.mk.inj (Option.some.inj h)
  exact ⟨hencode, hdecode⟩

/-! ## The tables of the codec -/

/-- The rows of the repository agree with themselves. -/
theorem codeTable_coherent : Coherent codeTable where
  symbols := by
    have hrange : codeTable.map Row.symbol = List.range 257 := by decide +kernel
    rw [hrange]
    exact List.nodup_range
  bits_eq := by
    have hall : (codeTable.all fun row => row.bits == bits row.numBits row.code) = true := by decide +kernel
    exact fun row hrow => beq_iff_eq.mp (List.all_eq_true.mp hall row hrow)

/-- The two tables of the codec are what the generator prints. -/
theorem generate_codeTable :
    generate codeTable = some (Qpack.Huffman.Encoding.table, Qpack.Huffman.Decoding.table) := by
  decide +kernel

/-- The end of the string has the code of the codec. -/
theorem wordOf_stop : wordOf Qpack.Huffman.Encoding.table 256 = Qpack.Huffman.eosBits := by decide +kernel

theorem codeOf_table : codeOf Qpack.Huffman.Encoding.table = Qpack.Huffman.symbolBits := by
  funext byte
  unfold codeOf wordOf Qpack.Huffman.symbolBits Qpack.Huffman.encodingSymbol
  rfl

/-- No code of the repository begins another. -/
theorem codeTable_free :
    PrefixFree (codeOf Qpack.Huffman.Encoding.table) (wordOf Qpack.Huffman.Encoding.table 256) := by
  rw [wordOf_stop, codeOf_table]
  exact Qpack.Huffman.prefixFree

/-- The end of the string is all ones. -/
theorem codeTable_stop : ∃ n, 8 ≤ n ∧ wordOf Qpack.Huffman.Encoding.table 256 = List.replicate n true := by
  refine ⟨30, by decide, ?_⟩
  rw [wordOf_stop]
  rfl

/-- **The table printed for a code decodes that code**: whatever the rows are, if there is one for each symbol and the
generator runs through, no code begins another and that of the end of the string is ones, then the table takes a byte
string that is not empty for a string of symbols exactly when its bits are their codes, one after another, and fewer
than eight ones behind them. The empty string, which holds no code and no padding, is rejected by `huffman::decode`
itself. The rows of the repository are an instance (`generate_codeTable`): its printed tables are those of the codec. -/
theorem generate_decodes {rows : List Row} {encode : List Encoding.Symbol} {table : List (List Decoding.Node)}
    (hgenerate : generate rows = some (encode, table)) (hrows : Coherent rows)
    (hfree : PrefixFree (codeOf encode) (wordOf encode 256))
    (hstop : ∃ n, 8 ≤ n ∧ wordOf encode 256 = List.replicate n true) (bs xs : List UInt8) :
    decodes table (nibbles bs) 0 false = some xs ↔
      bs ≠ [] ∧ ∃ pad, Ones pad ∧ bytesBits bs = message (codeOf encode) xs ++ pad := by
  obtain ⟨hencode, hdecode⟩ := tables_of_generate hgenerate
  obtain ⟨root, hdraws⟩ := draws_of_decodeTable hdecode
  exact decodes_iff hrows hencode hdraws hfree hstop bs xs

/-- The letter `a`, in the table of the repository. -/
theorem generate_decodes_codeTable :
    decodes Qpack.Huffman.Decoding.table (nibbles [0x1f]) 0 false = some [0x61] ↔ [0x1f] ≠ ([] : List UInt8) ∧
      ∃ pad, Ones pad ∧ bytesBits [0x1f] = message (codeOf Qpack.Huffman.Encoding.table) [0x61] ++ pad :=
  generate_decodes generate_codeTable codeTable_coherent codeTable_free codeTable_stop [0x1f] [0x61]

end Bnl.Http3.Tools.GenerateHuffman
