import Mathlib.Logic.Relation
import FileTransfer.Proofs.Pool.Network

/-!
# Many callers of one pool

Any number of callers use a pool of sessions at once. Each of their steps is one change that nothing
comes between; between two steps of one caller, others may take any number of theirs.

* `Caller`: what a caller is doing between two of its steps.
* `Move`: one step of one caller.
* `Crowd`, `Crowd.Step`: a pool and its callers, and a step of any of them.
* `acquire_moves`, `release_moves`, `close_moves`, `performAll_moves`: what a caller does on its own is
  a run of its steps.
-/

namespace FileTransfer.Pool
open FileTransfer.Session FileTransfer.Settings
set_option autoImplicit false

/-! ## Callers -/

/-- What a caller is doing between two of its steps. -/
inductive Caller where
  /-- Nothing with the pool. -/
  | away
  /-- It found nothing on the shelf, and is about to set up a session. -/
  | dialling
  | holding (id : Id)
  /-- It is about to end the sessions of connections, one after the other. -/
  | closing (ids : List Id)
  deriving DecidableEq, Repr

namespace Caller

def held : Caller → List Id
  | holding id => [id]
  | _ => []

def due : Caller → List Id
  | closing ids => ids
  | _ => []

end Caller

/-- One step of one caller. Taking a connection off the shelf, putting it back, and emptying the shelf
for good are one step each; so are setting up a session, ending one, and whatever a holder does to
its connection. -/
inductive Move : SessionPool × Caller → SessionPool × Caller → Prop where
  /-- A closed pool hands out nothing. -/
  | refused {p : SessionPool} {failure : Failure} (h : p.shelf.take = .error failure) :
      Move (p, .away) (p, .away)
  | took {p : SessionPool} {id : Id} {shelf : Shelf} (h : p.shelf.take = .ok (some id, shelf)) :
      Move (p, .away) ({ p with shelf }, .holding id)
  | missed {p : SessionPool} {shelf : Shelf} (h : p.shelf.take = .ok (none, shelf)) :
      Move (p, .away) ({ p with shelf }, .dialling)
  | dialled {p p' : SessionPool} {id : Id} (h : p.dialNext = (.ok id, p')) :
      Move (p, .dialling) (p', .holding id)
  | undialled {p p' : SessionPool} {failure : Failure} (h : p.dialNext = (.error failure, p')) :
      Move (p, .dialling) (p', .away)
  /-- A holder changes the state of its connection, in particular when it breaks it. -/
  | used {p : SessionPool} {id : Id} (c : Connection) (t : Trace) (hid : c.id = id)
      (hcarrier : c.carrier = (p.network.connection id).carrier) (ht : t.On id) :
      Move (p, .holding id)
        ({ p with network := (p.network.withConnection c).seen t }, .holding id)
  | kept {p : SessionPool} {id : Id} {shelf : Shelf}
      (h : p.shelf.offer p.remote.maxIdle (p.network.connection id).broken id = .ok (true, shelf)) :
      Move (p, .holding id) ({ p with shelf }, .away)
  | turnedDown {p : SessionPool} {id : Id} {shelf : Shelf}
      (h : p.shelf.offer p.remote.maxIdle (p.network.connection id).broken id = .ok (false, shelf)) :
      Move (p, .holding id) ({ p with shelf }, .closing [id])
  /-- A limit that is no number leaves the connection nowhere. -/
  | unoffered {p : SessionPool} {id : Id} {failure : Failure}
      (h : p.shelf.offer p.remote.maxIdle (p.network.connection id).broken id = .error failure) :
      Move (p, .holding id) (p, .away)
  | shut {p : SessionPool} : Move (p, .away) ({ p with shelf := p.shelf.shut.2 }, .closing p.shelf.shut.1)
  | parted {p p' : SessionPool} {id : Id} {ids : List Id} (h : p.closeConnection id = (.ok (), p')) :
      Move (p, .closing (id :: ids)) (p', .closing ids)
  /-- A session that fails to end leaves those after it nowhere. -/
  | stranded {p p' : SessionPool} {id : Id} {ids : List Id} {failure : Failure}
      (h : p.closeConnection id = (.error failure, p')) :
      Move (p, .closing (id :: ids)) (p', .away)
  | finished {p : SessionPool} : Move (p, .closing []) (p, .away)
  /-- A note concerns no connection. -/
  | remarked {p : SessionPool} {c : Caller} (notes : List String) :
      Move (p, c) ({ p with network := p.network.seen ⟨[], notes⟩ }, c)

/-! ## What a caller does on its own -/

open Relation

theorem acquire_moves (p : SessionPool) :
    (∃ id, p.acquire.1 = .ok id ∧ ReflTransGen Move (p, .away) (p.acquire.2, .holding id)) ∨
      ∃ failure, p.acquire.1 = .error failure ∧ ReflTransGen Move (p, .away) (p.acquire.2, .away) := by
  unfold SessionPool.acquire
  cases htake : p.shelf.take with
  | error failure => exact .inr ⟨failure, rfl, .single (.refused htake)⟩
  | ok taken =>
    obtain ⟨id?, shelf⟩ := taken
    cases id? with
    | some id => exact .inl ⟨id, rfl, .single (.took htake)⟩
    | none =>
      have hmissed := ReflTransGen.single (Move.missed htake)
      rcases hdial : SessionPool.dialNext { p with shelf } with ⟨failure | id, p'⟩
      · exact .inr ⟨failure, by simp [hdial], by simpa [hdial] using hmissed.tail (.undialled hdial)⟩
      · exact .inl ⟨id, by simp [hdial], by simpa [hdial] using hmissed.tail (.dialled hdial)⟩

theorem closeAll_moves (ids : List Id) (p : SessionPool) :
    ReflTransGen Move (p, .closing ids) ((SessionPool.closeAll ids p).2, .away) := by
  induction ids generalizing p with
  | nil => exact .single .finished
  | cons id ids ih =>
    rw [SessionPool.closeAll]
    rcases hclose : p.closeConnection id with ⟨failure | _, p'⟩
    · exact .single (.stranded hclose)
    · exact .head (.parted hclose) (ih p')

theorem release_moves (id : Id) (p : SessionPool) :
    ReflTransGen Move (p, .holding id) ((p.release id).2, .away) := by
  unfold SessionPool.release
  cases hoffer : p.shelf.offer p.remote.maxIdle (p.network.connection id).broken id with
  | error failure => exact .single (.unoffered hoffer)
  | ok offered =>
    obtain ⟨_ | _, shelf⟩ := offered
    · have hclosed := closeAll_moves [id] { p with shelf }
      have hsame : (SessionPool.closeAll [id] { p with shelf }).2 =
          (SessionPool.closeConnection id { p with shelf }).2 := by
        rw [SessionPool.closeAll]
        rcases SessionPool.closeConnection id { p with shelf } with ⟨failure | _, p'⟩ <;> rfl
      rw [hsame] at hclosed
      exact .head (.turnedDown hoffer) hclosed
    · exact .single (.kept hoffer)

theorem close_moves (p : SessionPool) : ReflTransGen Move (p, .away) (p.close.2, .away) :=
  .head .shut (closeAll_moves _ _)

theorem converse_move {α : Type} (id : Id) (d : Dialogue α) (p : SessionPool) :
    Move (p, .holding id) ((Pool.converse id d p).2, .holding id) := by
  obtain ⟨c, t, hconverse, hid, hcarrier, hon, -⟩ := SessionPool.converse_spec id d p
  rw [hconverse]
  exact .used c t hid hcarrier hon

/-- An operation is a run of steps of its caller, whatever comes of it. -/
theorem perform_moves (op : Operation) (p : SessionPool) :
    ReflTransGen Move (p, .away) ((Pool.perform op p).2, .away) := by
  have hheld : ReflTransGen Move (p, .away) ((Pool.withConnection op.dialogue p).2, .away) := by
    rw [SessionPool.withConnection_eq]
    obtain ⟨id, hid, hacquired⟩ | ⟨failure, hfailure, hrefused⟩ := acquire_moves p
    · rw [hid]
      exact (hacquired.tail (converse_move id op.dialogue _)).trans (release_moves id _)
    · rw [hfailure]
      exact hrefused
  rw [SessionPool.perform_eq]
  split
  · exact hheld
  · exact hheld.tail (.remarked _)

def performAll : List Operation → SessionPool → SessionPool
  | [], p => p
  | op :: ops, p => performAll ops (Pool.perform op p).2

theorem performAll_moves (ops : List Operation) (p : SessionPool) :
    ReflTransGen Move (p, .away) (performAll ops p, .away) := by
  induction ops generalizing p with
  | nil => exact .refl
  | cons op ops ih => exact (perform_moves op p).trans (ih _)

/-! ## Crowds -/

/-- A pool and its callers. -/
structure Crowd where
  pool : SessionPool
  callers : List Caller

namespace Crowd

/-- A step of any caller. -/
inductive Step : Crowd → Crowd → Prop where
  | move {p p' : SessionPool} {c c' : Caller} (before after : List Caller)
      (h : Move (p, c) (p', c')) :
      Step ⟨p, before ++ c :: after⟩ ⟨p', before ++ c' :: after⟩

/-- What any number of callers come to, whatever the order of their steps. -/
abbrev Reaches : Crowd → Crowd → Prop := ReflTransGen Step

/-- A new pool, of which no caller wants anything yet. -/
def fresh (r : Remote) (scripts : List Script) (n : Nat) : Crowd :=
  ⟨{ remote := r, scripts }, List.replicate n .away⟩

/-- The steps of one caller are steps of its crowd. -/
theorem reaches_of_moves {x y : SessionPool × Caller} (before after : List Caller)
    (h : ReflTransGen Move x y) : Reaches ⟨x.1, before ++ x.2 :: after⟩ ⟨y.1, before ++ y.2 :: after⟩ := by
  induction h with
  | refl => exact .refl
  | tail _ hmove ih => exact ih.tail (.move before after hmove)

end Crowd
end FileTransfer.Pool
