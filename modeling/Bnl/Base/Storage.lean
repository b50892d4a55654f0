import Bnl.Base.Buffer
import Mathlib.Logic.Function.Basic

/-!
# The storage of `base::buffer`

A short buffer keeps its bytes in itself, a long one in a block of the heap that it shares with the buffers
sliced off it. The block counts the buffers that refer to it and is freed with the last one. A buffer that is
moved takes a block along, but copies the bytes it keeps in itself. What lies at an address that was freed is
not used again: an allocation is at an address of its own.

This is the level between the byte strings and the objects: where a byte lies can be said, so that it can be
said to have moved, but pointers are offsets into a place and the overlay of `rc_` and `sso_` is a case
distinction. The lists of buffers are here lists of nodes, each at an address of its own, because a node holds
the inline bytes of its buffer.
-/

namespace Bnl.Base.Storage

/-- An address of a node or a block. Addresses are handed out one after another and never twice. -/
abbrev Address : Type := Nat

/-- A block of the heap, with its reference count. The bytes of a block are not written to once it is
constructed. -/
structure Block where
  rc : Nat
  bytes : List UInt8
  deriving DecidableEq, Repr

/-- The block with one reference less, or nothing where that was the last one. -/
def Block.release (block : Block) : Option Block :=
  if block.rc - 1 = 0 then none else some { block with rc := block.rc - 1 }

/-- The blocks that are allocated, and the next address. -/
structure Heap where
  blocks : Address → Option Block := fun _ => none
  next : Address := 0

/-- Where the bytes of a buffer lie: in `sso_`, or in the block that `rc_` points to. The overlay of the two
members is the choice between the two constructors. -/
inductive Place where
  | sso (bytes : List UInt8)
  | block (rc_ : Address)
  deriving DecidableEq, Repr

/-- `base::buffer`; `begin_` and `end_` are offsets into the place. -/
structure Buffer where
  place : Place := .sso []
  begin_ : Nat := 0
  end_ : Nat := 0
  deriving DecidableEq, Repr

namespace Buffer

/-- `SSO_THRESHOLD`. -/
def SSO_THRESHOLD : Nat := 20

/-- `sso(size)`. -/
def sso (size : Nat) : Bool := size ≤ SSO_THRESHOLD

/-- The buffer refers to this block; an inline buffer refers to none. -/
def refers (r : Address) (b : Buffer) : Bool := b.place = .block r

/-- `size()`. -/
def size (b : Buffer) : Nat := b.end_ - b.begin_

/-- `empty()`. -/
def empty (b : Buffer) : Bool := b.size == 0

/-- All that lies where the buffer lies, also what it has passed: the offsets of a buffer that shares a block
are into the whole block. -/
def contents (m : Heap) (b : Buffer) : List UInt8 :=
  match b.place with
  | .sso bytes => bytes
  | .block r => ((m.blocks r).map Block.bytes).getD []

/-- The bytes between `begin_` and `end_`. -/
def bytes (m : Heap) (b : Buffer) : List UInt8 := ((b.contents m).take b.end_).drop b.begin_

/-- `buffer(data, size)`: inline up to the threshold, else in a block of its own with a count of one. -/
def construct (m : Heap) (bytes : List UInt8) : Buffer × Heap :=
  if sso bytes.length then ({ place := .sso bytes, end_ := bytes.length }, m)
  else
    ({ place := .block m.next, end_ := bytes.length },
      { blocks := Function.update m.blocks m.next (some ⟨1, bytes⟩), next := m.next + 1 })

/-- `buffer(buffer &&)`: what the new buffer is. The other one is left without storage. Inline bytes are copied
to where the new buffer lies, a block stays where it is. -/
def move (m : Heap) (b : Buffer) : Buffer :=
  match b.place with
  | .sso _ => { place := .sso (b.bytes m), end_ := b.size }
  | .block _ => b

/-- `destroy()`: a block loses a reference, and goes with the last one. -/
def destroy (m : Heap) (b : Buffer) : Heap :=
  match b.place with
  | .sso _ => m
  | .block r =>
    match m.blocks r with
    | none => m
    | some block => { m with blocks := Function.update m.blocks r block.release }

/-- `consume(size)`, which moves `begin_` alone. -/
def consume (b : Buffer) (size : Nat) : Buffer := { b with begin_ := b.begin_ + size }

/-- `buffer(rc, begin, end)`, of the next `size` bytes of a buffer, which must be in a block. -/
def share (m : Heap) (b : Buffer) (size : Nat) : Buffer × Heap :=
  match b.place with
  | .sso _ => ({}, m)
  | .block r =>
    match m.blocks r with
    | none => ({}, m)
    | some block =>
      ({ place := .block r, begin_ := b.begin_, end_ := b.begin_ + size },
        { m with blocks := Function.update m.blocks r (some { block with rc := block.rc + 1 }) })

/-- `slice`: a short slice is a copy, a long one shares the block. This holds of a short slice of a long buffer
too, whose bytes then lie in two places. -/
def slice (m : Heap) (b : Buffer) (size : Nat) : Buffer × Buffer × Heap :=
  if size = 0 then ({}, b, m)
  else if sso size then
    let (result, m) := construct m ((b.bytes m).take size)
    (result, b.consume size, m)
  else
    let (result, m) := b.share m size
    (result, b.consume size, m)

end Buffer

/-! ## `base::buffers` -/

/-- A node of the list of `base::buffers`: where it lies, and the buffer in it. -/
structure Node where
  address : Address
  buffer : Buffer
  deriving DecidableEq, Repr

def Node.empty (node : Node) : Bool := node.buffer.empty

/-- `buffers_`. -/
abbrev Buffers : Type := List Node

namespace Buffers

def size (s : Buffers) : Nat := (s.map fun node => node.buffer.size).sum

def empty (s : Buffers) : Bool := size s == 0

/-- The byte string of each buffer: what the list is, but for where it lies. -/
def view (m : Heap) (s : Buffers) : Base.Buffers := ⟨s.map fun node => ⟨node.buffer.bytes m⟩⟩

/-- `push(buffer)`, which moves the buffer into a new node at the end. -/
def push (m : Heap) (s : Buffers) (buffer : Buffer) : Buffers × Heap :=
  (s ++ [⟨m.next, buffer.move m⟩], { m with next := m.next + 1 })

/-- `discard()`: erase the empty buffers at the front, and release what they refer to. -/
def discard (m : Heap) : Buffers → Buffers × Heap
  | [] => ([], m)
  | node :: s => if node.empty then discard (node.buffer.destroy m) s else (node :: s, m)

/-- The loop of `consume`. No buffer is released in it, also where nothing is left of one. -/
def consumeFrom : Buffers → Nat → Buffers
  | [], _ => []
  | node :: s, size =>
    if size = 0 then node :: s
    else
      { node with buffer := node.buffer.consume (min size node.buffer.size) } ::
        consumeFrom s (size - min size node.buffer.size)

def consume (m : Heap) (s : Buffers) (size : Nat) : Buffers × Heap := discard m (consumeFrom s size)

/-- The search for `end` in `slice`, as on byte strings. -/
def findEnd : Buffers → Nat → Buffers × Buffers × Nat
  | [], left => ([], [], left)
  | node :: s, left =>
    if left > node.buffer.size then
      let (before, rest, left') := findEnd s (left - node.buffer.size)
      (node :: before, rest, left')
    else ([], node :: s, left)

/-- `concat(start, end, left)`, into a buffer that is constructed anew and shares with none of them. -/
def concat (m : Heap) (before : Buffers) (last : Buffer) (left : Nat) : Buffer × Heap :=
  Buffer.construct m
    (before.flatMap (fun node => node.buffer.bytes m) ++ (last.bytes m).take left)

/-- `slice(size)`: within one buffer it is that buffer's slice; over several it is a copy, and these are
consumed. -/
def slice (m : Heap) (s : Buffers) (size : Nat) : Buffer × Buffers × Heap :=
  let leading := s.takeWhile Node.empty
  match findEnd (s.dropWhile Node.empty) size with
  | ([], node :: rest, left) =>
    let (result, buffer, m) := node.buffer.slice m left
    let (s, m) := discard m (leading ++ { node with buffer } :: rest)
    (result, s, m)
  | (before, node :: _, left) =>
    let (result, m) := concat m before node.buffer left
    let (s, m) := consume m s result.size
    (result, s, m)
  -- no buffer holds the end of the slice: the assertion that `end` is in the list
  | (_, [], _) => ({}, s, m)

end Buffers

end Bnl.Base.Storage
