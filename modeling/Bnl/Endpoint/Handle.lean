import Bnl.Endpoint.Request
import Mathlib.Logic.Function.Basic

/-!
# `sender::handle`

A sender and its handle point to each other. Neither can be copied; the special members that move and destroy
them keep the two pointers in step. The heap has a sender and a handle at some addresses; a member that follows
a pointer to where no object lives is `none` here.

Addresses are natural numbers, given by the program: where an object is constructed is not for the model to
choose. The members are the source's, one definition each; the two moves of a sender differ only in the check
against moving onto itself. A `handle` is moved by its assignment, also where it is constructed from another.

What a handle's calls do to the sender's queues is not here. The law over this heap is about the pointers alone:
over all the programs that construct, move, assign and destroy.
-/

namespace Bnl.Http3.Endpoint.Handle

open Bnl.Base

/-- Where an object lives. -/
abbrev Address : Type := Nat

/-- A `request::sender` with its `handle_`. -/
structure SenderObject where
  handle_ : Option Address := none
  sender : Request.Sender
  deriving DecidableEq

/-- A `sender::handle`. -/
structure HandleObject where
  id : UInt64 := 0xffffffffffffffff
  sender_ : Option Address := none
  deriving DecidableEq

/-- The senders and the handles that are alive. -/
structure Heap where
  senders : Address → Option SenderObject
  handles : Address → Option HandleObject

namespace Heap

/-- No objects. -/
def empty : Heap := ⟨fun _ => none, fun _ => none⟩

/-- `s->handle_ = h`. -/
def setHandle (m : Heap) (s : Address) (h : Option Address) : Option Heap :=
  match m.senders s with
  | none => none
  | some object =>
    some { m with senders := Function.update m.senders s (some { object with handle_ := h }) }

/-- `h->sender_ = s`. -/
def setSender (m : Heap) (h : Address) (s : Option Address) : Option Heap :=
  match m.handles h with
  | none => none
  | some object =>
    some { m with handles := Function.update m.handles h (some { object with sender_ := s }) }

/-- `s->handle_ = h`, unless `s` is null. -/
def setHandleOf (m : Heap) (s : Option Address) (h : Option Address) : Option Heap :=
  match s with
  | none => some m
  | some s => m.setHandle s h

/-- `h->sender_ = s`, unless `h` is null. -/
def setSenderOf (m : Heap) (h : Option Address) (s : Option Address) : Option Heap :=
  match h with
  | none => some m
  | some h => m.setSender h s

end Heap

/-- What `std::move` leaves of the members of a sender: the queues are gone. -/
def movedFrom (s : Request.Sender) : Request.Sender :=
  { s with
    headers_ := { s.headers_ with buffers := {} }
    body_ := { s.body_ with buffers := {} } }

/-! ## The special members of `sender` -/

namespace Sender

/-- `sender(id)`, at `s`. -/
def construct (m : Heap) (s : Address) (id : UInt64) : Heap :=
  { m with senders := Function.update m.senders s (some { sender := { id } }) }

/-- The members, then the handle of the other sender: what the two moves have in common. -/
def take (m : Heap) (s other : Address) : Option Heap := do
  let object ← m.senders other
  let m := { m with
    senders := Function.update (Function.update m.senders s (some object)) other
      (some { object with sender := movedFrom object.sender }) }
  let m ← m.setSenderOf object.handle_ (some s)
  m.setHandle other none

/-- `sender(sender &&)`, at `s`. -/
def moveConstruct (m : Heap) (s other : Address) : Option Heap := take m s other

/-- `operator=(sender &&)`. -/
def moveAssign (m : Heap) (s other : Address) : Option Heap :=
  if other = s then some m else take m s other

/-- `~sender`. -/
def destroy (m : Heap) (s : Address) : Option Heap := do
  let object ← m.senders s
  let m ← m.setSenderOf object.handle_ none
  pure { m with senders := Function.update m.senders s none }

end Sender

/-! ## The special members of `sender::handle` -/

/-- `handle()`, at `h`. -/
def default (m : Heap) (h : Address) : Heap :=
  { m with handles := Function.update m.handles h (some {}) }

/-- `handle(sender *)`, at `h`. -/
def construct (m : Heap) (h s : Address) : Option Heap := do
  let object ← m.senders s
  let m := { m with
    handles := Function.update m.handles h (some { id := object.sender.id, sender_ := some s }) }
  m.setHandle s (some h)

/-- `operator=(handle &&)`. -/
def moveAssign (m : Heap) (h other : Address) : Option Heap :=
  if other = h then some m
  else do
    let object ← m.handles other
    let m := { m with
      handles := Function.update (Function.update m.handles h (some object)) other (some {}) }
    m.setHandleOf object.sender_ (some h)

/-- `handle(handle &&)`, at `h`. -/
def moveConstruct (m : Heap) (h other : Address) : Option Heap := moveAssign (default m h) h other

/-- `~handle`. -/
def destroy (m : Heap) (h : Address) : Option Heap := do
  let object ← m.handles h
  let m ← m.setHandleOf object.sender_ none
  pure { m with handles := Function.update m.handles h none }

/-! ## Programs -/

/-- What a program does with senders and handles. -/
inductive Action where
  | sender (s : Address) (id : UInt64)
  | moveSender (s other : Address)
  | assignSender (s other : Address)
  | destroySender (s : Address)
  | handle (h s : Address)
  | emptyHandle (h : Address)
  | moveHandle (h other : Address)
  | assignHandle (h other : Address)
  | destroyHandle (h : Address)
  deriving DecidableEq, Repr

/-- A program constructs where nothing lives, and uses what lives. -/
def Action.wellFormed (m : Heap) : Action → Bool
  | .sender s _ => (m.senders s).isNone
  | .moveSender s other => (m.senders s).isNone && (m.senders other).isSome
  | .assignSender s other => (m.senders s).isSome && (m.senders other).isSome
  | .destroySender s => (m.senders s).isSome
  | .handle h s => (m.handles h).isNone && (m.senders s).isSome
  | .emptyHandle h => (m.handles h).isNone
  | .moveHandle h other => (m.handles h).isNone && (m.handles other).isSome
  | .assignHandle h other => (m.handles h).isSome && (m.handles other).isSome
  | .destroyHandle h => (m.handles h).isSome

/-- The special member the action runs. -/
def Action.apply (m : Heap) : Action → Option Heap
  | .sender s id => some (Sender.construct m s id)
  | .moveSender s other => Sender.moveConstruct m s other
  | .assignSender s other => Sender.moveAssign m s other
  | .destroySender s => Sender.destroy m s
  | .handle h s => construct m h s
  | .emptyHandle h => some (default m h)
  | .moveHandle h other => moveConstruct m h other
  | .assignHandle h other => moveAssign m h other
  | .destroyHandle h => destroy m h

/-- An action; one that is not well-formed is not there to be taken. -/
def step (m : Heap) (a : Action) : Option Heap :=
  if a.wellFormed m then a.apply m else some m

end Bnl.Http3.Endpoint.Handle
