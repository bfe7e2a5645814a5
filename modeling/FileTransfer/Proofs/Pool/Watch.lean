import FileTransfer.Pool.Basic
import FileTransfer.Proofs.Session.Account

/-!
# Watched pools

Any pool can be watched: each time a connection is asked for or given back is written down, and each
event that is seen of a connection meanwhile. Watching a pool changes nothing that it does.

* `Call`, `Watched`: what is written down, and a pool that is watched.
* `perform_watched`: what is written down of an operation, and that the operation is the same.
-/

namespace FileTransfer.Pool
open FileTransfer.Session
set_option autoImplicit false

/-- What is written down of the use of a pool. -/
inductive Call where
  /-- A connection was asked for, and was given out or not. -/
  | acquired (given : Option Id)
  | seen (event : Event)
  | released (id : Id)
  | closed
  | closedConnection (id : Id)

/-- A pool, and what was written down of its use. -/
structure Watched (ω : Type) where
  pool : ω
  calls : List Call := []

section Pools
variable {ω : Type} [Pool ω]

/-- The events of a network that are not in one before it. -/
def Network.since (before after : Network) : List Event :=
  after.trace.events.drop before.trace.events.length

theorem Network.since_of_trace {n n' : Network} {t : Trace} (h : n'.trace = n.trace ++ t) :
    n.since n' = t.events := by
  rw [since, h]
  exact List.drop_left

namespace Watched

/-- The pool in its next state, with more written down. -/
def next (w : Watched ω) (pool : ω) (calls : List Call) : Watched ω := ⟨pool, w.calls ++ calls⟩

instance : Pool (Watched ω) where
  network w := Pool.network w.pool
  withNetwork w n := w.next (Pool.withNetwork w.pool n) (((Pool.network w.pool).since n).map .seen)
  acquire w :=
    let (given, pool) := Pool.acquire w.pool
    (given, w.next pool [.acquired given.toOption])
  release id w :=
    let (result, pool) := Pool.release id w.pool
    (result, w.next pool [.released id])
  close w :=
    let (result, pool) := Pool.close w.pool
    (result, w.next pool [.closed])
  closeConnection id w :=
    let (result, pool) := Pool.closeConnection id w.pool
    (result, w.next pool [.closedConnection id])

/-! ## Operations -/

theorem since_seen (n : Network) (t : Trace) : n.since (n.seen t) = t.events :=
  Network.since_of_trace rfl

variable {w w' : ω} {id : Id} {calls : List Call}

theorem converse_watched {α : Type} (d : Dialogue α) :
    Pool.converse id d (⟨w, calls⟩ : Watched ω) =
      ((Pool.converse id d w).1, ⟨(Pool.converse id d w).2, calls ++
        ((Holding.account d { connection := (Pool.network w).connection id }).flatMap
          Prod.snd).map .seen⟩) := by
  have htied := Holding.tied_new ((Pool.network w).connection id)
  have hevents := Holding.account_events d _ htied
  rw [show ({ connection := (Pool.network w).connection id } : Holding).trace.events = [] from rfl,
    List.nil_append] at hevents
  rw [← hevents]
  refine Prod.ext rfl ?_
  let h := (Holding.run d { connection := (Pool.network w).connection id }).2
  exact congrArg (fun events => Watched.mk (Pool.converse id d w).2 (calls ++ events.map .seen))
    (since_seen ((Pool.network w).withConnection h.connection) h.trace)

theorem remark_watched (notes : List String) :
    Pool.remark notes (⟨w, calls⟩ : Watched ω) = ⟨Pool.remark notes w, calls⟩ := by
  have hnothing : ((Pool.network w).since ((Pool.network w).seen ⟨[], notes⟩)).map Call.seen = [] := by
    rw [since_seen]
    rfl
  have hremark : Pool.remark notes (⟨w, calls⟩ : Watched ω) = ⟨Pool.remark notes w,
      calls ++ ((Pool.network w).since ((Pool.network w).seen ⟨[], notes⟩)).map Call.seen⟩ := rfl
  rw [hremark, hnothing, List.append_nil]

theorem acquire_watched :
    Pool.acquire (⟨w, calls⟩ : Watched ω) = ((Pool.acquire w).1,
      ⟨(Pool.acquire w).2, calls ++ [.acquired (Pool.acquire w).1.toOption]⟩) := rfl

theorem release_watched :
    Pool.release id (⟨w, calls⟩ : Watched ω) =
      ((Pool.release id w).1, ⟨(Pool.release id w).2, calls ++ [.released id]⟩) := rfl

/-- What is written down of a dialogue on a connection of a pool. -/
def usage {α : Type} (d : Dialogue α) (w : ω) : List Call :=
  match Pool.acquire w with
  | (.error _, _) => [.acquired none]
  | (.ok id, w') =>
    .acquired (some id) ::
      (((Holding.account d { connection := (Pool.network w').connection id }).flatMap
        Prod.snd).map .seen ++ [.released id])

theorem withConnection_watched {α : Type} (d : Dialogue α) :
    Pool.withConnection d (⟨w, calls⟩ : Watched ω) =
      ((Pool.withConnection d w).1, ⟨(Pool.withConnection d w).2, calls ++ usage d w⟩) := by
  rw [withConnection, withConnection, bracket, bracket, usage, acquire_watched]
  rcases Pool.acquire w with ⟨failure | id, w'⟩
  · rfl
  · dsimp only
    rw [converse_watched, release_watched]
    simp only [List.append_assoc, List.cons_append, List.nil_append, Except.toOption]

/-- Watching a pool changes nothing that an operation does with it. -/
theorem perform_watched (op : Operation) (w : ω) (calls : List Call) :
    Pool.perform op (⟨w, calls⟩ : Watched ω) =
      ((Pool.perform op w).1, ⟨(Pool.perform op w).2, calls ++ usage op.dialogue w⟩) := by
  rw [perform, perform, withConnection_watched]
  rcases Pool.withConnection op.dialogue w with ⟨failure | told, w'⟩
  · rfl
  · dsimp only
    rw [remark_watched]

end Watched
end Pools

end FileTransfer.Pool
