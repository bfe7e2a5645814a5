import FileTransfer.Pool.Basic

/-!
# Replayed connections

A pool whose connections are there from the start and hand over lines as such.

* `ReplayPool`: the connections, and how often they were acquired and released.
-/

namespace FileTransfer.Pool
open FileTransfer.Session
set_option autoImplicit false

/-- A pool of connections that are there from the start. -/
structure ReplayPool where
  network : Network
  /-- What becomes of each acquisition; later ones succeed. -/
  acquires : List (Option Failure) := []
  acquired : Nat := 0
  released : List Id := []

namespace ReplayPool

def connectionOf (id : Id) (s : Script) : Connection where
  id := id
  replies := s.replies
  sends := s.sends
  transfers := s.transfers

/-- A pool of connections with scripts; without any there is one connection with an empty one. -/
def ofScripts (scripts : List Script) (acquires : List (Option Failure)) : ReplayPool where
  network :=
    { connections := (if scripts.isEmpty then [{}] else scripts).mapIdx connectionOf }
  acquires := acquires

/-- The connections are handed out one after the other, the last one again and again. -/
def acquire (p : ReplayPool) : Except Failure Id × ReplayPool :=
  let q := { p with acquires := p.acquires.drop 1 }
  match p.acquires.headD none with
  | some failure => (.error failure, q)
  | none =>
    let id := min p.acquired (p.network.connections.length - 1)
    (.ok id, { q with network := p.network.did id .acquire, acquired := p.acquired + 1 })

/-- A connection that is given back is only noted. -/
def release (id : Id) (p : ReplayPool) : Except Failure Unit × ReplayPool :=
  (.ok (), { p with network := p.network.did id .release, released := p.released ++ [id] })

/-- Nothing is kept, so there is nothing to close. -/
instance : Pool ReplayPool where
  network := network
  withNetwork p n := { p with network := n }
  acquire := acquire
  release := release
  close p := (.ok (), p)
  closeConnection _ p := (.ok (), p)

end ReplayPool
end FileTransfer.Pool
