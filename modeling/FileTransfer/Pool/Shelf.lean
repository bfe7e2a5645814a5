import FileTransfer.Failure
import FileTransfer.Session.Event

/-!
# The shelf of a pool

A pool keeps connections that nobody holds on a shelf. Each of its changes to the shelf is one step
that nothing comes between.

* `Shelf`: the idle connections, and whether the pool is closed.
* `Shelf.take`, `Shelf.offer`, `Shelf.shut`: the steps.
-/

namespace FileTransfer.Pool
open FileTransfer.Session
set_option autoImplicit false

/-- Idle connections, the one kept longest first, and whether the pool is closed. -/
structure Shelf where
  idle : List Id := []
  closed : Bool := false
  deriving DecidableEq, Repr

namespace Shelf

/-- Takes the connection kept last, if one is there; a closed pool hands out none. -/
def take (s : Shelf) : Except Failure (Option Id × Shelf) :=
  if s.closed then .error .poolClosed
  else match s.idle.getLast? with
    | none => .ok (none, s)
    | some id => .ok (some id, { s with idle := s.idle.dropLast })

/-- Whether there is room for one more under a limit. A limit that is no number cannot be compared
with a count. -/
def hasRoom (s : Shelf) (limit : Value) : Except Failure Bool :=
  match limit, limit.integer? with
  | _, some n => .ok ((s.idle.length : Int) < n)
  | .real x, none => .ok (x.exceeds s.idle.length)
  | _, none => Failure.ofFault (.limitNotNumber limit.kind)

/-- Offers a connection that is given back. It is kept when the pool is open, the connection is not
broken, and there is room; the answer says whether it is kept. -/
def offer (s : Shelf) (limit : Value) (broken : Bool) (id : Id) : Except Failure (Bool × Shelf) :=
  if s.closed || broken then .ok (false, s)
  else do
    if ← s.hasRoom limit then return (true, { s with idle := s.idle ++ [id] })
    else return (false, s)

/-- Closes the pool for good: the connections on the shelf are to be closed one by one. -/
def shut (s : Shelf) : List Id × Shelf := (s.idle, { idle := [], closed := true })

end Shelf
end FileTransfer.Pool
