import Bnl.Base.Buffer
import Bnl.Library.Memory

/-!
# `base::buffers` and its iterators

The operations as they walk over the list. An iterator stands in front of a buffer, or at `end()` where none is
ahead; to look at a buffer there, or to go on, has no result, as an assertion that fails has none.

These are the same functions as in the module on buffers, a level closer to the source: the loops pass an
iterator along, `concat` allocates a buffer and fills it through a pointer into storage, and every assertion is
a test. That they have a result wherever the operation is asked for no more than there is, and then the one on
the byte string, is proved with the laws of this module, so nothing here is assumed to stay inside the list.
-/

namespace Bnl.Base

/-- An iterator of the list: the buffers it has passed, and those ahead of it. The two together are the list, so
an iterator cannot be of another one. -/
structure Iterator where
  passed : List Buffer := []
  ahead : List Buffer
  deriving DecidableEq, Repr

namespace Iterator

/-- `*it`; none at `end()`. -/
def deref (it : Iterator) : Option Buffer := it.ahead.head?

/-- The list, after a buffer has been written through the iterator. -/
def write (it : Iterator) (buffer : Buffer) : Option Buffers :=
  match it.ahead with
  | [] => none
  | _ :: ahead => some ⟨it.passed ++ buffer :: ahead⟩

/-- How far it is from `begin()`; iterators of one list are equal where this is. -/
def position (it : Iterator) : Nat := it.passed.length

end Iterator

namespace Buffer

/-- `consume`, with its assertion. -/
def consumeChecked (b : Buffer) (size : Nat) : Option Buffer :=
  if size ≤ b.size then some (b.consume size) else none

/-- `slice`, with its assertion. -/
def sliceChecked (b : Buffer) (size : Nat) : Option (Buffer × Buffer) :=
  if size ≤ b.size then some (b.slice size) else none

end Buffer

namespace Buffers

/-- `find_first_not_empty`. -/
def findFirstNotEmpty (passed : List Buffer) : List Buffer → Iterator
  | [] => ⟨passed, []⟩
  | b :: ahead =>
    if !b.empty then ⟨passed, b :: ahead⟩ else findFirstNotEmpty (passed ++ [b]) ahead

/-- The loop of `operator[]`. -/
def seekIndex (passed : List Buffer) : List Buffer → Nat → Iterator × Nat
  | [], index => (⟨passed, []⟩, index)
  | b :: ahead, index =>
    if index ≥ b.size then seekIndex (passed ++ [b]) ahead (index - b.size)
    else (⟨passed, b :: ahead⟩, index)

/-- `operator[]`. -/
def getChecked (s : Buffers) (index : Nat) : Option UInt8 :=
  if index < s.size then do
    let (it, index) := seekIndex [] s.buffers index
    let b ← it.deref
    b.bytes[index]?
  else none

/-- The loop of `slice`. -/
def seekEnd (passed : List Buffer) : List Buffer → Nat → Iterator × Nat
  | [], left => (⟨passed, []⟩, left)
  | b :: ahead, left =>
    if left > b.size then seekEnd (passed ++ [b]) ahead (left - b.size)
    else (⟨passed, b :: ahead⟩, left)

/-- The loop of `consume`. Its condition does not ask for `end()`, so that it stays in the list depends on the
assertion in front of it. -/
def consumeLoop (passed : List Buffer) : List Buffer → Nat → Option Buffers
  | [], size => if size ≠ 0 then none else some ⟨passed⟩
  | b :: ahead, size =>
    if size ≠ 0 then do
      let toConsume := min size b.size
      let b ← b.consumeChecked toConsume
      consumeLoop (passed ++ [b]) ahead (size - toConsume)
    else some ⟨passed ++ b :: ahead⟩

/-- `consume`. -/
def consumeChecked (s : Buffers) (size : Nat) : Option Buffers :=
  if size ≤ s.size then do
    let s ← consumeLoop [] s.buffers size
    pure s.discard
  else none

/-- The first loop of `concat`, from `position` on to that of `end`: how much the result has to hold. -/
def sizeLoop (stop : Nat) : (position : Nat) → List Buffer → (size : Nat) → Option Nat
  | position, [], size => if position ≠ stop then none else some size
  | position, b :: ahead, size =>
    if position ≠ stop then sizeLoop stop (position + 1) ahead (size + b.size) else some size

/-- The second loop of `concat`: what `result` holds, and how much of it is written. Each buffer is stored
behind the last one. -/
def copyLoop (stop : Nat) : (position : Nat) → List Buffer → Memory → (offset : Nat) → Option (Memory × Nat)
  | position, [], m, offset => if position ≠ stop then none else some (m, offset)
  | position, b :: ahead, m, offset =>
    if position ≠ stop then copyLoop stop (position + 1) ahead (m.store offset b.bytes) (offset + b.size)
    else some (m, offset)

/-- `concat(start, end, left)`, to a buffer that holds what `storage` says. The copy of the last part is inside
the allocation only where the two loops agree, which the test asks for. -/
def concatChecked (storage : Memory) (start stop : Iterator) (left : Nat) : Option Buffer := do
  let size ← sizeLoop stop.position start.position start.ahead 0
  let size := size + left
  let (m, offset) ← copyLoop stop.position start.position start.ahead storage 0
  let last ← stop.deref
  if left ≤ last.size ∧ offset + left ≤ size then
    pure ⟨(m.store offset (last.bytes.take left)).load 0 size⟩
  else none

/-- `slice`. -/
def sliceChecked (storage : Memory) (s : Buffers) (size : Nat) : Option (Buffer × Buffers) :=
  if size ≤ s.size then do
    let first := findFirstNotEmpty [] s.buffers
    let buffer ← first.deref
    let (last, left) := seekEnd first.passed first.ahead size
    let _ ← last.deref
    if first.position = last.position then
      let (result, buffer) ← buffer.sliceChecked left
      let s ← first.write buffer
      pure (result, s.discard)
    else
      let result ← concatChecked storage first last left
      let s ← s.consumeChecked result.size
      pure (result, s)
  else none

/-- `pop`, with its assertion, which asks for bytes and not for a buffer. -/
def popChecked (s : Buffers) : Option (Buffer × Buffers) :=
  if s.size > 0 then
    match s.buffers with
    | [] => none
    | b :: bs => some (b, ⟨bs⟩)
  else none

end Buffers

end Bnl.Base
