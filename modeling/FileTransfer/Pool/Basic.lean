import FileTransfer.Operation
import FileTransfer.Session.Connection

/-!
# Pools

A pool is a source of connections: a connection is acquired, used by one holder, and released.

* `Network`: the connections there are, and what was seen of them.
* `Pool`: what a pool can do.
* `withConnection`: a dialogue on a connection of a pool, released on every way out.
* `perform`: an operation on remote files.
-/

namespace FileTransfer
open FileTransfer.Session
set_option autoImplicit false

/-! ## Networks -/

namespace Pool

structure Network where
  connections : List Connection := []
  trace : Trace := {}

namespace Network

/-- A connection by number; a number that was never given out stands for one without a script. -/
def connection (n : Network) (id : Id) : Connection :=
  (n.connections.find? (·.id = id)).getD { id }

def withConnection (n : Network) (c : Connection) : Network :=
  { n with connections := n.connections.map fun d => if d.id = c.id then c else d }

def seen (n : Network) (trace : Trace) : Network := { n with trace := n.trace ++ trace }

def did (n : Network) (id : Id) (action : Action) : Network := n.seen ⟨[⟨id, action⟩], []⟩

/-- Lets a connection be used, with the data channel open on it. -/
def use {α : Type} (n : Network) (id : Id) (stream : Option Stream)
    (f : Holding → α × Holding) : α × Option Stream × Network :=
  let (a, h) := f { connection := n.connection id, stream }
  (a, h.stream, (n.withConnection h.connection).seen h.trace)

end Network
end Pool

/-! ## Pools -/

class Pool (ω : Type) where
  network : ω → Pool.Network
  withNetwork : ω → Pool.Network → ω
  acquire : ω → Except Failure Id × ω
  release : Id → ω → Except Failure Unit × ω
  close : ω → Except Failure Unit × ω
  closeConnection : Id → ω → Except Failure Unit × ω

namespace Pool
variable {ω : Type} [Pool ω]

/-- Uses a connection of a pool, with the data channel open on it. -/
def use {α : Type} (id : Id) (stream : Option Stream) (f : Holding → α × Holding) (w : ω) :
    α × Option Stream × ω :=
  let (a, stream, n) := (Pool.network w).use id stream f
  (a, stream, Pool.withNetwork w n)

def converse {α : Type} (id : Id) (d : Dialogue α) (w : ω) : Except Failure α × ω :=
  let (result, _, w) := use id none (Holding.run d) w
  (result, w)

/-- The later of two failures, or the result. -/
def unlessFails {α : Type} (result : Except Failure α) (later : Except Failure Unit) :
    Except Failure α :=
  match later with
  | .ok () => result
  | .error failure => .error failure

/-- Acquires a connection, lets it be used, and releases it whatever came of that. A failure to
release takes the place of the result. -/
def bracket {α : Type} (f : Id → ω → Except Failure α × ω) (w : ω) : Except Failure α × ω :=
  match Pool.acquire w with
  | (.error failure, w) => (.error failure, w)
  | (.ok id, w) =>
    let (result, w) := f id w
    let (released, w) := Pool.release id w
    (unlessFails result released, w)

def withConnection {α : Type} (d : Dialogue α) (w : ω) : Except Failure α × ω :=
  bracket (fun id => converse id d) w

/-- Leaves notes that concern no connection. -/
def remark (notes : List String) (w : ω) : ω :=
  Pool.withNetwork w ((Pool.network w).seen ⟨[], notes⟩)

/-- An operation on remote files: what the server tells on one connection, then decoded. -/
def perform (op : Operation) (w : ω) : Except Failure Answer × ω :=
  match withConnection op.dialogue w with
  | (.error failure, w) => (.error failure, w)
  | (.ok told, w) => (told.answer, remark told.notes w)

end Pool
end FileTransfer
