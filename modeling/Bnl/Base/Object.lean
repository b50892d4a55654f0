import Bnl.Base.Storage
import Bnl.Library.Bytes
import Bnl.Library.Memory

/-!
# `base::buffer` as an object

A buffer as it lies in storage: two pointers and twenty bytes, of which the first are those of the pointer `rc_`
too. Which of the two they are is read off `begin_`, by comparing addresses. What the code does to a block that
is not allocated, or to an object that does not live, has no result; where objects and blocks come to lie is the
environment's choice.

Here the overlay is taken literally: `rc()` assembles the pointer from the first eight bytes of `sso_`, `setRc`
stores it there, and `sso()` compares `begin_` with the address of the object itself. So a move that forgot to
reset the source, or a slice that was mistaken for an inline buffer because its block lies close to an object,
would show.

**What is left out.** The bytes of an object are those of its members; padding, alignment and the order of the
members are not modelled beyond the offset of `sso_`. A size so large that `sizeof(uint32_t) + size` wraps is
kept out by the environment: a block lies below 2^64 as a whole.
-/

namespace Bnl.Base.Objects

/-- `base::buffer`. The null pointer is 0, addresses are numbers, and `sso_` is not initialised: a new object
holds whatever its storage held. -/
structure Object where
  begin_ : Nat := 0
  end_ : Nat := 0
  sso_ : Memory

/-- What `new` allocates in `buffer(size)`: the count in front of the bytes. -/
structure Block where
  rc : UInt32
  size : Nat
  bytes : Memory

/-- The objects that live and the blocks that are allocated, by their addresses. That they lie apart is not
built in. -/
structure Store where
  objects : Nat → Option Object := fun _ => none
  blocks : Nat → Option Block := fun _ => none

/-- `sizeof(buffer)`. -/
def sizeofBuffer : Nat := 40

/-- The address of the member `sso_`. -/
def ssoOf (this : Nat) : Nat := this + 16

/-- `sizeof(uint32_t)`, by which the bytes of a block lie behind its begin. -/
def sizeofCount : Nat := 4

namespace Object

/-- `size()`: the distance of the two pointers. -/
def size (b : Object) : Nat := b.end_ - b.begin_

/-- `rc_()`: the pointer that the first eight bytes spell. -/
def rc (b : Object) : Nat := Bytes.ofBytes (b.sso_.load 0 8)

/-- `rc_(location)`, which overwrites the first eight bytes, whatever was there. -/
def setRc (b : Object) (location : Nat) : Object :=
  { b with sso_ := b.sso_.store 0 (Bytes.toBytes 8 location) }

/-- `sso()`: the null pointer counts as inline, and so does any pointer into the object's own twenty bytes or
right behind them. -/
def sso (this : Nat) (b : Object) : Bool :=
  b.begin_ = 0 ∨ b.begin_ ≥ ssoOf this ∧ b.begin_ ≤ ssoOf this + Storage.Buffer.SSO_THRESHOLD

end Object

namespace Store

/-- The object at an address is this one from now on. -/
def put (s : Store) (this : Nat) (b : Object) : Store :=
  { s with objects := Function.update s.objects this (some b) }

/-- The end of the object's lifetime. -/
def erase (s : Store) (this : Nat) : Store :=
  { s with objects := Function.update s.objects this none }

/-- The block at an address is this one from now on. -/
def putBlock (s : Store) (r : Nat) (block : Block) : Store :=
  { s with blocks := Function.update s.blocks r (some block) }

/-- `delete[]`. -/
def free (s : Store) (r : Nat) : Store :=
  { s with blocks := Function.update s.blocks r none }

/-- The bytes from `begin()` to `end()`, out of the object or out of its block; none where the block is gone. -/
def bytes (s : Store) (this : Nat) : Option (List UInt8) := do
  let b ← s.objects this
  if b.sso this then pure (b.sso_.load (b.begin_ - ssoOf this) b.size)
  else
    let block ← s.blocks b.rc
    pure (block.bytes.load (b.begin_ - (b.rc + sizeofCount)) b.size)

/-- `buffer()`, whose twenty bytes are not initialised. -/
def default (s : Store) (this : Nat) (sso_ : Memory) : Store := s.put this { sso_ }

/-- `buffer(size)`; `location` and `storage` are what `new` returns and what lies there. Bytes are not written:
the constructor leaves them to its caller. -/
def construct (s : Store) (this : Nat) (size : Nat) (location : Nat) (storage sso_ : Memory) : Store :=
  if Storage.Buffer.sso size then
    let b := Object.setRc { begin_ := ssoOf this, sso_ } 0
    s.put this { b with end_ := b.begin_ + size }
  else
    let b := Object.setRc { sso_ } location
    let s := s.putBlock b.rc { rc := 1, size, bytes := storage }
    let b := { b with begin_ := b.rc + sizeofCount }
    s.put this { b with end_ := b.begin_ + size }

/-- `std::copy_n(data, size, begin())`. -/
def write (s : Store) (this : Nat) (data : List UInt8) : Option Store := do
  let b ← s.objects this
  if b.sso this then pure (s.put this { b with sso_ := b.sso_.store (b.begin_ - ssoOf this) data })
  else
    let block ← s.blocks b.rc
    pure (s.putBlock b.rc { block with bytes := block.bytes.store (b.begin_ - (b.rc + sizeofCount)) data })

/-- `buffer(data, size)`. -/
def constructData (s : Store) (this : Nat) (data : List UInt8) (location : Nat) (storage sso_ : Memory) :
    Option Store :=
  (s.construct this data.length location storage sso_).write this data

/-- `destroy()`. The count is 32 bits wide and goes down by one; a block whose count comes to zero is deleted,
and the pointer to it is reset. -/
def destroy (s : Store) (this : Nat) : Option Store := do
  let b ← s.objects this
  if b.sso this then pure s
  else
    let block ← s.blocks b.rc
    let rc := block.rc - 1
    if rc = 0 then pure ((s.free b.rc).put this (b.setRc 0))
    else pure (s.putBlock b.rc { block with rc })

/-- `operator=(buffer &&other)`. What this object held is let go of first; an inline source is copied, a shared
one hands its reference on, and both leave the source without either. An object that is moved onto itself is
left alone. -/
def moveAssign (s : Store) (this other : Nat) : Option Store :=
  if other ≠ this then do
    let s ← s.destroy this
    let b ← s.objects this
    let o ← s.objects other
    let b :=
      if o.sso other then
        { b with
          begin_ := ssoOf this
          end_ := ssoOf this + o.size
          sso_ := b.sso_.store 0 (o.sso_.load (o.begin_ - ssoOf other) o.size) }
      else { b.setRc o.rc with begin_ := o.begin_, end_ := o.end_ }
    let o := { o.setRc 0 with begin_ := 0, end_ := 0 }
    pure ((s.put this b).put other o)
  else some s

/-- `buffer(buffer &&other)`. -/
def moveConstruct (s : Store) (this other : Nat) (sso_ : Memory) : Option Store :=
  (s.default this sso_).moveAssign this other

/-- `~buffer()`. -/
def destructor (s : Store) (this : Nat) : Option Store := do
  let s ← s.destroy this
  pure (s.erase this)

/-- `consume(size)`, with its assertion. -/
def consume (s : Store) (this : Nat) (size : Nat) : Option Store := do
  let b ← s.objects this
  if size ≤ b.size then pure (s.put this { b with begin_ := b.begin_ + size }) else none

/-- `buffer(rc, begin, end)`, which counts itself in. -/
def share (s : Store) (this : Nat) (rc begin_ end_ : Nat) (sso_ : Memory) : Option Store := do
  let b := Object.setRc { begin_, end_, sso_ } rc
  let block ← s.blocks b.rc
  pure ((s.putBlock b.rc { block with rc := block.rc + 1 }).put this b)

/-- `slice(size)`, of which `result` is returned; a buffer that is assigned to it lies at `temporary`. That
temporary goes through a constructor, a move and a destructor, as in the source. -/
def slice (s : Store) (result temporary this : Nat) (size : Nat) (storage sso_ sso_' : Memory) :
    Option Store := do
  let b ← s.objects this
  if size ≤ b.size then
    let s := s.default result sso_
    if size = 0 then pure s
    else
      let s ←
        if Storage.Buffer.sso size then do
          let data ← s.bytes this
          s.constructData temporary (data.take size) 0 storage sso_'
        else s.share temporary b.rc b.begin_ (b.begin_ + size) sso_'
      let s ← s.moveAssign result temporary
      let s ← s.destructor temporary
      s.consume this size
  else none

end Store

end Bnl.Base.Objects
