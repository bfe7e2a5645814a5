import FileTransfer.Pool.Basic
import FileTransfer.Pool.Dial
import FileTransfer.Pool.Shelf

/-!
# Pools of sessions

A pool that dials sessions with one remote as they are needed, and keeps those that are given back
in good order for the next holder.

* `SessionPool`: the remote, the sessions made so far, and the shelf.
* `SessionPool.acquire`, `SessionPool.release`, `SessionPool.close`: each a step on the shelf, and
  what follows from it.
-/

namespace FileTransfer.Pool
open FileTransfer.Session FileTransfer.Settings
set_option autoImplicit false

structure SessionPool where
  remote : Remote
  scripts : List Script
  /-- How many sessions were made, or tried. -/
  made : Nat := 0
  shelf : Shelf := {}
  network : Network := {}

namespace SessionPool

def dialNext (p : SessionPool) : Except Failure Id × SessionPool :=
  let id := p.made
  let (result, trace) := dial p.remote id (p.scripts.getD id Script.refused)
  let n := p.network.seen trace
  let p := { p with made := id + 1 }
  match result with
  | .error failure => (.error failure, { p with network := n })
  | .ok c => (.ok id, { p with network := { n with connections := n.connections ++ [c] } })

def acquire (p : SessionPool) : Except Failure Id × SessionPool :=
  match p.shelf.take with
  | .error failure => (.error failure, p)
  | .ok (some id, shelf) => (.ok id, { p with shelf })
  | .ok (none, shelf) => dialNext { p with shelf }

def closeConnection (id : Id) (p : SessionPool) : Except Failure Unit × SessionPool :=
  let (result, trace) := hangUp (p.network.connection id)
  (result, { p with network := p.network.seen trace })

def release (id : Id) (p : SessionPool) : Except Failure Unit × SessionPool :=
  match p.shelf.offer p.remote.maxIdle (p.network.connection id).broken id with
  | .error failure => (.error failure, p)
  | .ok (true, shelf) => (.ok (), { p with shelf })
  | .ok (false, shelf) => closeConnection id { p with shelf }

/-- Ends the sessions of connections one after the other, up to the first that fails to. -/
def closeAll : List Id → SessionPool → Except Failure Unit × SessionPool
  | [], p => (.ok (), p)
  | id :: ids, p =>
    match closeConnection id p with
    | (.ok (), p) => closeAll ids p
    | (.error failure, p) => (.error failure, p)

def close (p : SessionPool) : Except Failure Unit × SessionPool :=
  let (ids, shelf) := p.shelf.shut
  closeAll ids { p with shelf }

def isBroken (p : SessionPool) (id : Id) : Bool := (p.network.connection id).broken

instance : Pool SessionPool where
  network := network
  withNetwork p n := { p with network := n }
  acquire := acquire
  release := release
  close := close
  closeConnection := closeConnection

end SessionPool
end FileTransfer.Pool
