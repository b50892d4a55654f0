import Bnl.Codec.Huffman.DecodeGenerated
import Bnl.Codec.Huffman.EncodeGenerated
import Bnl.Library.PrefixCode

/-!
# `generate_huffman.py`

The generator of the two tables of the codec. The rows of the code table are put into a tree, its inner nodes
are numbered, and the transitions of each inner node are written down. It stops where an attribute of `None` is
read, where its assertion fails or where a symbol has no place in the table; what it prints does not compile
where a value has no place in its field. Both are `none` here.

The script changes the nodes of one tree in place, in three passes. Here each pass is a function from trees to
trees, and a node holds what the passes before it have set. A transition keeps of the node it leads to the two
fields that are printed, so that no tree holds another.

The rows of the standard are `codeTable`. Nothing in the model of the script depends on them.
-/

set_option maxRecDepth 100000

namespace Bnl.Http3.Tools.GenerateHuffman

open Qpack.Huffman (Encoding.Symbol Decoding.Node Decoding.Flag.accepted Decoding.Flag.symbol Decoding.Flag.failed)

/-! ## The code table -/

/-- What is matched of a line of `code_table_raw`. -/
structure Row where
  symbol : Nat
  bits : List Bool
  code : Nat
  numBits : Nat
  deriving DecidableEq, Repr

/-- A line. Of the bits there are as many as stand in the brackets. -/
def row (symbol bits code numBits : Nat) : Row := ⟨symbol, PrefixCode.bits numBits bits, code, numBits⟩

/-- `code_table_raw`. -/
def codeTable : List Row := [
  row 0 0b11111111_11000 0x1ff8 13, row 1 0b11111111_11111111_1011000 0x7fffd8 23,
  row 2 0b11111111_11111111_11111110_0010 0xfffffe2 28, row 3 0b11111111_11111111_11111110_0011 0xfffffe3 28,
  row 4 0b11111111_11111111_11111110_0100 0xfffffe4 28, row 5 0b11111111_11111111_11111110_0101 0xfffffe5 28,
  row 6 0b11111111_11111111_11111110_0110 0xfffffe6 28, row 7 0b11111111_11111111_11111110_0111 0xfffffe7 28,
  row 8 0b11111111_11111111_11111110_1000 0xfffffe8 28, row 9 0b11111111_11111111_11101010 0xffffea 24,
  row 10 0b11111111_11111111_11111111_111100 0x3ffffffc 30, row 11 0b11111111_11111111_11111110_1001 0xfffffe9 28,
  row 12 0b11111111_11111111_11111110_1010 0xfffffea 28, row 13 0b11111111_11111111_11111111_111101 0x3ffffffd 30,
  row 14 0b11111111_11111111_11111110_1011 0xfffffeb 28, row 15 0b11111111_11111111_11111110_1100 0xfffffec 28,
  row 16 0b11111111_11111111_11111110_1101 0xfffffed 28, row 17 0b11111111_11111111_11111110_1110 0xfffffee 28,
  row 18 0b11111111_11111111_11111110_1111 0xfffffef 28, row 19 0b11111111_11111111_11111111_0000 0xffffff0 28,
  row 20 0b11111111_11111111_11111111_0001 0xffffff1 28, row 21 0b11111111_11111111_11111111_0010 0xffffff2 28,
  row 22 0b11111111_11111111_11111111_111110 0x3ffffffe 30, row 23 0b11111111_11111111_11111111_0011 0xffffff3 28,
  row 24 0b11111111_11111111_11111111_0100 0xffffff4 28, row 25 0b11111111_11111111_11111111_0101 0xffffff5 28,
  row 26 0b11111111_11111111_11111111_0110 0xffffff6 28, row 27 0b11111111_11111111_11111111_0111 0xffffff7 28,
  row 28 0b11111111_11111111_11111111_1000 0xffffff8 28, row 29 0b11111111_11111111_11111111_1001 0xffffff9 28,
  row 30 0b11111111_11111111_11111111_1010 0xffffffa 28, row 31 0b11111111_11111111_11111111_1011 0xffffffb 28,
  row 32 0b010100 0x14 6, row 33 0b11111110_00 0x3f8 10, row 34 0b11111110_01 0x3f9 10,
  row 35 0b11111111_1010 0xffa 12, row 36 0b11111111_11001 0x1ff9 13, row 37 0b010101 0x15 6,
  row 38 0b11111000 0xf8 8, row 39 0b11111111_010 0x7fa 11, row 40 0b11111110_10 0x3fa 10,
  row 41 0b11111110_11 0x3fb 10, row 42 0b11111001 0xf9 8, row 43 0b11111111_011 0x7fb 11, row 44 0b11111010 0xfa 8,
  row 45 0b010110 0x16 6, row 46 0b010111 0x17 6, row 47 0b011000 0x18 6, row 48 0b00000 0x0 5, row 49 0b00001 0x1 5,
  row 50 0b00010 0x2 5, row 51 0b011001 0x19 6, row 52 0b011010 0x1a 6, row 53 0b011011 0x1b 6,
  row 54 0b011100 0x1c 6, row 55 0b011101 0x1d 6, row 56 0b011110 0x1e 6, row 57 0b011111 0x1f 6,
  row 58 0b1011100 0x5c 7, row 59 0b11111011 0xfb 8, row 60 0b11111111_1111100 0x7ffc 15, row 61 0b100000 0x20 6,
  row 62 0b11111111_1011 0xffb 12, row 63 0b11111111_00 0x3fc 10, row 64 0b11111111_11010 0x1ffa 13,
  row 65 0b100001 0x21 6, row 66 0b1011101 0x5d 7, row 67 0b1011110 0x5e 7, row 68 0b1011111 0x5f 7,
  row 69 0b1100000 0x60 7, row 70 0b1100001 0x61 7, row 71 0b1100010 0x62 7, row 72 0b1100011 0x63 7,
  row 73 0b1100100 0x64 7, row 74 0b1100101 0x65 7, row 75 0b1100110 0x66 7, row 76 0b1100111 0x67 7,
  row 77 0b1101000 0x68 7, row 78 0b1101001 0x69 7, row 79 0b1101010 0x6a 7, row 80 0b1101011 0x6b 7,
  row 81 0b1101100 0x6c 7, row 82 0b1101101 0x6d 7, row 83 0b1101110 0x6e 7, row 84 0b1101111 0x6f 7,
  row 85 0b1110000 0x70 7, row 86 0b1110001 0x71 7, row 87 0b1110010 0x72 7, row 88 0b11111100 0xfc 8,
  row 89 0b1110011 0x73 7, row 90 0b11111101 0xfd 8, row 91 0b11111111_11011 0x1ffb 13,
  row 92 0b11111111_11111110_000 0x7fff0 19, row 93 0b11111111_11100 0x1ffc 13, row 94 0b11111111_111100 0x3ffc 14,
  row 95 0b100010 0x22 6, row 96 0b11111111_1111101 0x7ffd 15, row 97 0b00011 0x3 5, row 98 0b100011 0x23 6,
  row 99 0b00100 0x4 5, row 100 0b100100 0x24 6, row 101 0b00101 0x5 5, row 102 0b100101 0x25 6,
  row 103 0b100110 0x26 6, row 104 0b100111 0x27 6, row 105 0b00110 0x6 5, row 106 0b1110100 0x74 7,
  row 107 0b1110101 0x75 7, row 108 0b101000 0x28 6, row 109 0b101001 0x29 6, row 110 0b101010 0x2a 6,
  row 111 0b00111 0x7 5, row 112 0b101011 0x2b 6, row 113 0b1110110 0x76 7, row 114 0b101100 0x2c 6,
  row 115 0b01000 0x8 5, row 116 0b01001 0x9 5, row 117 0b101101 0x2d 6, row 118 0b1110111 0x77 7,
  row 119 0b1111000 0x78 7, row 120 0b1111001 0x79 7, row 121 0b1111010 0x7a 7, row 122 0b1111011 0x7b 7,
  row 123 0b11111111_1111110 0x7ffe 15, row 124 0b11111111_100 0x7fc 11, row 125 0b11111111_111101 0x3ffd 14,
  row 126 0b11111111_11101 0x1ffd 13, row 127 0b11111111_11111111_11111111_1100 0xffffffc 28,
  row 128 0b11111111_11111110_0110 0xfffe6 20, row 129 0b11111111_11111111_010010 0x3fffd2 22,
  row 130 0b11111111_11111110_0111 0xfffe7 20, row 131 0b11111111_11111110_1000 0xfffe8 20,
  row 132 0b11111111_11111111_010011 0x3fffd3 22, row 133 0b11111111_11111111_010100 0x3fffd4 22,
  row 134 0b11111111_11111111_010101 0x3fffd5 22, row 135 0b11111111_11111111_1011001 0x7fffd9 23,
  row 136 0b11111111_11111111_010110 0x3fffd6 22, row 137 0b11111111_11111111_1011010 0x7fffda 23,
  row 138 0b11111111_11111111_1011011 0x7fffdb 23, row 139 0b11111111_11111111_1011100 0x7fffdc 23,
  row 140 0b11111111_11111111_1011101 0x7fffdd 23, row 141 0b11111111_11111111_1011110 0x7fffde 23,
  row 142 0b11111111_11111111_11101011 0xffffeb 24, row 143 0b11111111_11111111_1011111 0x7fffdf 23,
  row 144 0b11111111_11111111_11101100 0xffffec 24, row 145 0b11111111_11111111_11101101 0xffffed 24,
  row 146 0b11111111_11111111_010111 0x3fffd7 22, row 147 0b11111111_11111111_1100000 0x7fffe0 23,
  row 148 0b11111111_11111111_11101110 0xffffee 24, row 149 0b11111111_11111111_1100001 0x7fffe1 23,
  row 150 0b11111111_11111111_1100010 0x7fffe2 23, row 151 0b11111111_11111111_1100011 0x7fffe3 23,
  row 152 0b11111111_11111111_1100100 0x7fffe4 23, row 153 0b11111111_11111110_11100 0x1fffdc 21,
  row 154 0b11111111_11111111_011000 0x3fffd8 22, row 155 0b11111111_11111111_1100101 0x7fffe5 23,
  row 156 0b11111111_11111111_011001 0x3fffd9 22, row 157 0b11111111_11111111_1100110 0x7fffe6 23,
  row 158 0b11111111_11111111_1100111 0x7fffe7 23, row 159 0b11111111_11111111_11101111 0xffffef 24,
  row 160 0b11111111_11111111_011010 0x3fffda 22, row 161 0b11111111_11111110_11101 0x1fffdd 21,
  row 162 0b11111111_11111110_1001 0xfffe9 20, row 163 0b11111111_11111111_011011 0x3fffdb 22,
  row 164 0b11111111_11111111_011100 0x3fffdc 22, row 165 0b11111111_11111111_1101000 0x7fffe8 23,
  row 166 0b11111111_11111111_1101001 0x7fffe9 23, row 167 0b11111111_11111110_11110 0x1fffde 21,
  row 168 0b11111111_11111111_1101010 0x7fffea 23, row 169 0b11111111_11111111_011101 0x3fffdd 22,
  row 170 0b11111111_11111111_011110 0x3fffde 22, row 171 0b11111111_11111111_11110000 0xfffff0 24,
  row 172 0b11111111_11111110_11111 0x1fffdf 21, row 173 0b11111111_11111111_011111 0x3fffdf 22,
  row 174 0b11111111_11111111_1101011 0x7fffeb 23, row 175 0b11111111_11111111_1101100 0x7fffec 23,
  row 176 0b11111111_11111111_00000 0x1fffe0 21, row 177 0b11111111_11111111_00001 0x1fffe1 21,
  row 178 0b11111111_11111111_100000 0x3fffe0 22, row 179 0b11111111_11111111_00010 0x1fffe2 21,
  row 180 0b11111111_11111111_1101101 0x7fffed 23, row 181 0b11111111_11111111_100001 0x3fffe1 22,
  row 182 0b11111111_11111111_1101110 0x7fffee 23, row 183 0b11111111_11111111_1101111 0x7fffef 23,
  row 184 0b11111111_11111110_1010 0xfffea 20, row 185 0b11111111_11111111_100010 0x3fffe2 22,
  row 186 0b11111111_11111111_100011 0x3fffe3 22, row 187 0b11111111_11111111_100100 0x3fffe4 22,
  row 188 0b11111111_11111111_1110000 0x7ffff0 23, row 189 0b11111111_11111111_100101 0x3fffe5 22,
  row 190 0b11111111_11111111_100110 0x3fffe6 22, row 191 0b11111111_11111111_1110001 0x7ffff1 23,
  row 192 0b11111111_11111111_11111000_00 0x3ffffe0 26, row 193 0b11111111_11111111_11111000_01 0x3ffffe1 26,
  row 194 0b11111111_11111110_1011 0xfffeb 20, row 195 0b11111111_11111110_001 0x7fff1 19,
  row 196 0b11111111_11111111_100111 0x3fffe7 22, row 197 0b11111111_11111111_1110010 0x7ffff2 23,
  row 198 0b11111111_11111111_101000 0x3fffe8 22, row 199 0b11111111_11111111_11110110_0 0x1ffffec 25,
  row 200 0b11111111_11111111_11111000_10 0x3ffffe2 26, row 201 0b11111111_11111111_11111000_11 0x3ffffe3 26,
  row 202 0b11111111_11111111_11111001_00 0x3ffffe4 26, row 203 0b11111111_11111111_11111011_110 0x7ffffde 27,
  row 204 0b11111111_11111111_11111011_111 0x7ffffdf 27, row 205 0b11111111_11111111_11111001_01 0x3ffffe5 26,
  row 206 0b11111111_11111111_11110001 0xfffff1 24, row 207 0b11111111_11111111_11110110_1 0x1ffffed 25,
  row 208 0b11111111_11111110_010 0x7fff2 19, row 209 0b11111111_11111111_00011 0x1fffe3 21,
  row 210 0b11111111_11111111_11111001_10 0x3ffffe6 26, row 211 0b11111111_11111111_11111100_000 0x7ffffe0 27,
  row 212 0b11111111_11111111_11111100_001 0x7ffffe1 27, row 213 0b11111111_11111111_11111001_11 0x3ffffe7 26,
  row 214 0b11111111_11111111_11111100_010 0x7ffffe2 27, row 215 0b11111111_11111111_11110010 0xfffff2 24,
  row 216 0b11111111_11111111_00100 0x1fffe4 21, row 217 0b11111111_11111111_00101 0x1fffe5 21,
  row 218 0b11111111_11111111_11111010_00 0x3ffffe8 26, row 219 0b11111111_11111111_11111010_01 0x3ffffe9 26,
  row 220 0b11111111_11111111_11111111_1101 0xffffffd 28, row 221 0b11111111_11111111_11111100_011 0x7ffffe3 27,
  row 222 0b11111111_11111111_11111100_100 0x7ffffe4 27, row 223 0b11111111_11111111_11111100_101 0x7ffffe5 27,
  row 224 0b11111111_11111110_1100 0xfffec 20, row 225 0b11111111_11111111_11110011 0xfffff3 24,
  row 226 0b11111111_11111110_1101 0xfffed 20, row 227 0b11111111_11111111_00110 0x1fffe6 21,
  row 228 0b11111111_11111111_101001 0x3fffe9 22, row 229 0b11111111_11111111_00111 0x1fffe7 21,
  row 230 0b11111111_11111111_01000 0x1fffe8 21, row 231 0b11111111_11111111_1110011 0x7ffff3 23,
  row 232 0b11111111_11111111_101010 0x3fffea 22, row 233 0b11111111_11111111_101011 0x3fffeb 22,
  row 234 0b11111111_11111111_11110111_0 0x1ffffee 25, row 235 0b11111111_11111111_11110111_1 0x1ffffef 25,
  row 236 0b11111111_11111111_11110100 0xfffff4 24, row 237 0b11111111_11111111_11110101 0xfffff5 24,
  row 238 0b11111111_11111111_11111010_10 0x3ffffea 26, row 239 0b11111111_11111111_1110100 0x7ffff4 23,
  row 240 0b11111111_11111111_11111010_11 0x3ffffeb 26, row 241 0b11111111_11111111_11111100_110 0x7ffffe6 27,
  row 242 0b11111111_11111111_11111011_00 0x3ffffec 26, row 243 0b11111111_11111111_11111011_01 0x3ffffed 26,
  row 244 0b11111111_11111111_11111100_111 0x7ffffe7 27, row 245 0b11111111_11111111_11111101_000 0x7ffffe8 27,
  row 246 0b11111111_11111111_11111101_001 0x7ffffe9 27, row 247 0b11111111_11111111_11111101_010 0x7ffffea 27,
  row 248 0b11111111_11111111_11111101_011 0x7ffffeb 27, row 249 0b11111111_11111111_11111111_1110 0xffffffe 28,
  row 250 0b11111111_11111111_11111101_100 0x7ffffec 27, row 251 0b11111111_11111111_11111101_101 0x7ffffed 27,
  row 252 0b11111111_11111111_11111101_110 0x7ffffee 27, row 253 0b11111111_11111111_11111101_111 0x7ffffef 27,
  row 254 0b11111111_11111111_11111110_000 0x7fffff0 27, row 255 0b11111111_11111111_11111011_10 0x3ffffee 26,
  row 256 0b11111111_11111111_11111111_111111 0x3fffffff 30]

/-! ## The tree -/

/-- What is printed of the node a transition leads to. -/
structure Target where
  id : Option Nat
  accept : Bool
  deriving DecidableEq, Repr

/-- An entry of `trans`: the node, unless the string ends on the way, and the symbol met. -/
abbrev Transition := Option Target × Option Nat

/-- `Node`, or `None`. -/
inductive Node where
  | none
  | node (term : Option Nat) (trans : List Transition) (id : Option Nat) (accept : Bool) (left right : Node)

namespace Node

/-- `Node()`. -/
def new : Node := .node .none [] .none false .none .none

/-- The child, made if it is not there. -/
def orNew : Node → Node
  | .none => new
  | nd => nd

/-- `_add(node, sym, bits)`. -/
def add : Node → Nat → List Bool → Node
  | .none, _, _ => .none
  | .node _ ts id accept left right, sym, [] => .node (some sym) ts id accept left right
  | .node term ts id accept left right, sym, false :: bits =>
    .node term ts id accept (add left.orNew sym bits) right
  | .node term ts id accept left right, sym, true :: bits =>
    .node term ts id accept left (add right.orNew sym bits)

/-- `_set_node_id(ctx, node, prefix)`, with the next id. -/
def setNodeId : Node → (path : List Bool) → (nextId : Nat) → Option (Node × Nat)
  | .none, _, _ => Option.none
  | .node (some term) ts id accept left right, _, nextId =>
    some (.node (some term) ts id accept left right, nextId)
  | .node .none ts _ accept left right, path, nextId => do
    let accept := if path.length ≤ 7 ∧ List.replicate path.length true = path then true else accept
    let (left, next) ← left.setNodeId (path ++ [false]) (nextId + 1)
    let (right, next) ← right.setNodeId (path ++ [true]) next
    some (.node .none ts (some nextId) accept left right, next)

/-- The node as a transition holds it. -/
def target : Node → Option Target
  | .none => Option.none
  | .node _ _ id accept _ _ => some ⟨id, accept⟩

/-- `go`: the symbol behind the step to a child. Two symbols in four bits fail the assertion. -/
def go : Node → (sym : Option Nat) → Option (Option Nat)
  | .none, _ => Option.none
  | .node (some term) _ _ _ _ _, .none => some (some term)
  | .node (some _) _ _ _ _ _, some _ => Option.none
  | .node .none _ _ _ _ _, sym => some sym

/-- Where the next bit is read: behind a symbol at the root. -/
def restart (root : Node) : Node → Node
  | .node (some _) _ _ _ _ _ => root
  | nd => nd

/-- `_traverse(node, sym, start_node, root, left)`: what it appends to `start_node.trans`. -/
def traverse (root : Node) : (left : Nat) → Node → (sym : Option Nat) → Option (List Transition)
  | 0, nd, sym => some [if sym = some 256 then (Option.none, Option.none) else (nd.target, sym)]
  | left + 1, nd, sym =>
    match restart root nd with
    | .none => Option.none
    | .node _ _ _ _ lnode rnode => do
      let lsym ← go lnode sym
      let ltrans ← traverse root left lnode lsym
      let rsym ← go rnode sym
      let rtrans ← traverse root left rnode rsym
      some (ltrans ++ rtrans)

/-- `_build_transition_table(ctx, node)`. -/
def buildTransitionTable (root : Node) : Node → Option Node
  | .none => some .none
  | .node term ts id accept left right => do
    let more ← traverse root 4 (.node term ts id accept left right) Option.none
    let left ← buildTransitionTable root left
    let right ← buildTransitionTable root right
    some (.node term (ts ++ more) id accept left right)

end Node

/-! ## What is printed -/

/-- The three numbers of a transition. -/
structure Entry where
  id : Nat
  flags : UInt8
  out : Nat
  deriving DecidableEq, Repr

/-- The body of the loop of `_print_transition_table`. -/
def entry : Transition → Entry
  | (nd, sym) =>
    let (out, flags) : Nat × UInt8 := match sym with
      | none => (0, 0)
      | some sym => (sym, Decoding.Flag.symbol)
    match nd with
    | none => ⟨0, flags ||| Decoding.Flag.failed, out⟩
    -- if the id is None, it is a leaf node
    | some ⟨none, _⟩ => ⟨0, flags ||| Decoding.Flag.accepted, out⟩
    | some ⟨some id, accept⟩ => ⟨id, if accept then flags ||| Decoding.Flag.accepted else flags, out⟩

/-- `_print_transition_table(node)`. -/
def Node.printTransitionTable : Node → Option (List (List Entry))
  | .none => Option.none
  | .node (some _) _ _ _ _ _ => some []
  | .node .none ts _ _ left right => do
    let lrows ← left.printTransitionTable
    let rrows ← right.printTransitionTable
    some (ts.map entry :: (lrows ++ rrows))

/-- The entry as a `node` of the decoder, whose fields are bytes. -/
def Entry.node (e : Entry) : Option Decoding.Node :=
  if e.id < 256 ∧ e.out < 256 then some ⟨UInt8.ofNat e.id, e.flags, UInt8.ofNat e.out⟩ else none

/-- `symbol_table[symbol] = (code, num_bits, character)`. -/
def setSymbol (symbolTable : List (Option (Nat × Nat))) (row : Row) : Option (List (Option (Nat × Nat))) :=
  if row.symbol < symbolTable.length then some (symbolTable.set row.symbol (some (row.code, row.numBits))) else none

/-- A `symbol` of the encoder. `None` is no number, and the code has 32 bits. -/
def symbolOf : Option (Nat × Nat) → Option Encoding.Symbol
  | none => none
  | some (code, numBits) => if code < 2 ^ 32 then some ⟨UInt32.ofNat code, numBits⟩ else none

/-- `encode_generated.cpp`. -/
def encodeTable (rows : List Row) : Option (List Encoding.Symbol) := do
  let symbolTable ← rows.foldlM setSymbol (List.replicate 257 none)
  symbolTable.mapM symbolOf

/-- The tree of the rows. -/
def tree (rows : List Row) : Node := rows.foldl (fun root row => root.add row.symbol row.bits) .new

/-- `decode_generated.cpp`. -/
def decodeTable (rows : List Row) : Option (List (List Decoding.Node)) := do
  let (root, _) ← (tree rows).setNodeId [] 0
  let root ← root.buildTransitionTable root
  let transitionTable ← root.printTransitionTable
  transitionTable.mapM fun entries => entries.mapM Entry.node

/-- The two files the generator writes. -/
def generate (rows : List Row) : Option (List Encoding.Symbol × List (List Decoding.Node)) := do
  let encode ← encodeTable rows
  let decode ← decodeTable rows
  some (encode, decode)

end Bnl.Http3.Tools.GenerateHuffman
