import Mathlib.Data.List.Nodup
import FileTransfer.Proofs.Pool.CrewRun

/-!
# One worker after the other

A worker that takes its steps one after the other, with nobody else's in between, does to the pool what
its operation does in one go, and comes to the same.

* `Phase.Leads`: the steps of one worker, one after the other.
* `leads_talking`: the steps of a dialogue.
* `leads_perform`, `run_lone`: the steps of an operation, in a crew whose other workers do nothing
  meanwhile.
-/

namespace FileTransfer.Pool
open FileTransfer.Session FileTransfer.Settings Relation
set_option autoImplicit false

/-! ## A pool after something was done to a connection -/

/-- The pool after its connection was in the hands of a holder. -/
def SessionPool.leave (p : SessionPool) (h : Holding) : SessionPool :=
  { p with network := (p.network.withConnection h.connection).seen h.trace }

theorem Network.withConnection_withConnection (n : Network) {c d : Connection} (h : c.id = d.id) :
    (n.withConnection c).withConnection d = n.withConnection d := by
  rw [withConnection, withConnection, withConnection, List.map_map]
  congr 1
  refine List.map_congr_left fun e _ => ?_
  rw [Function.comp_apply]
  by_cases hid : e.id = c.id
  · rw [if_pos hid, if_pos h, if_pos (hid.trans h)]
  · rw [if_neg hid]

theorem Network.withConnection_connection {n : Network} (hdistinct : n.dialled.Nodup) {id : Id}
    (hid : id ∈ n.dialled) : n.withConnection (n.connection id) = n := by
  have hsame : n.connections.map (fun d =>
      if d.id = (n.connection id).id then n.connection id else d) = n.connections := by
    refine (List.map_congr_left fun d hd => ?_).trans (List.map_id' n.connections)
    split
    · next heq => exact (List.inj_on_of_nodup_map hdistinct hd (connection_mem hid) heq).symm
    · rfl
  rw [withConnection, hsame]

theorem SessionPool.leave_leave (p : SessionPool) {h h' : Holding}
    (hid : h.connection.id = h'.connection.id) : (p.leave h).leave h' = p.leave (h'.after h.trace) := by
  have hnetwork : (((p.network.withConnection h.connection).seen h.trace).withConnection
      h'.connection).seen h'.trace =
        (p.network.withConnection h'.connection).seen (h.trace ++ h'.trace) := by
    rw [← p.network.withConnection_withConnection hid]
    exact congrArg (Network.mk
      ((p.network.withConnection h.connection).withConnection h'.connection).connections)
      (Trace.append_assoc p.network.trace h.trace h'.trace)
  exact congrArg (fun network => { p with network }) hnetwork

theorem SessionPool.leave_new (p : SessionPool) (hdistinct : p.network.dialled.Nodup) {id : Id}
    (hid : id ∈ p.network.dialled) (stream : Option Stream) :
    p.leave { connection := p.network.connection id, stream } = p := by
  have hnetwork : (p.network.withConnection (p.network.connection id)).seen {} = p.network := by
    rw [Network.withConnection_connection hdistinct hid, Network.seen, Trace.append_empty]
  exact congrArg (fun network => { p with network }) hnetwork

/-! ## The steps of a dialogue -/

namespace Phase
variable {op : Operation}

/-- The steps of one worker with nobody else's in between. -/
abbrev Leads (op : Operation) : SessionPool × Phase → SessionPool × Phase → Prop :=
  ReflTransGen fun x y => x.2.step op x.1 = y

theorem step_talking (op : Operation) (p : SessionPool) (given : Connection)
    (stream : Option Stream) {d : Dialogue Told} (hleft : d.result? = none) :
    (talking given d stream).step op p =
      let x := Holding.advance d { connection := p.network.connection given.id, stream }
      (p.leave x.2, talking given x.1 x.2.stream) := by
  rw [step, hleft]
  rfl

/-- Carrying out a dialogue step by step is carrying it out. -/
theorem leads_talking (op : Operation) (given : Connection) (d : Dialogue Told) (h : Holding)
    (htied : h.Tied) (p : SessionPool) (hdistinct : p.network.dialled.Nodup)
    (hid : given.id ∈ p.network.dialled) (hconnection : p.network.connection given.id = h.connection) :
    let x := Holding.run d h.bare
    Leads op (p, .talking given d h.stream) (p.leave x.2, .talking given (.done x.1) x.2.stream) := by
  dsimp only
  induction d, h using Holding.advance_induction generalizing p with
  | done result h =>
    have hsame : p.leave h.bare = p := by
      rw [Holding.bare, ← hconnection]
      exact p.leave_new hdistinct hid h.stream
    show Leads op _ (p.leave h.bare, _)
    rw [hsame]
    exact .refl
  | step d h hleft ih =>
    have hstep := step_talking op p given h.stream hleft
    have hstrides := Holding.strides_advance d h.bare htied
    have hrun := Holding.run_advance d h.bare
    -- What was seen of the holding before is not seen again.
    rw [Holding.advance_bare] at ih
    rw [hconnection, show ({ connection := h.connection, stream := h.stream } : Holding) = h.bare
      from rfl] at hstep
    generalize Holding.advance d h.bare = x at hstep hstrides hrun ih
    have hid' : x.2.connection.id = given.id := by
      rw [hstrides.id_eq, ← p.network.connection_id given.id, hconnection]
      rfl
    have hdialled : (p.leave x.2).network.dialled = p.network.dialled :=
      Network.dialled_withConnection p.network x.2.connection
    have hconnection' : (p.leave x.2).network.connection given.id = x.2.connection := by
      rw [← hid']
      exact Network.connection_withConnection_self (hid'.symm ▸ hid)
    have hrest := ih hstrides.tied (p.leave x.2) (hdialled.symm ▸ hdistinct) (hdialled.symm ▸ hid)
      hconnection'
    have hlast : x.2.connection.id = (Holding.run x.1 x.2.bare).2.connection.id :=
      (Holding.advances_run x.1 x.2.bare hstrides.tied).id_eq.symm
    rw [← hrun, Holding.run_bare x.1 x.2]
    dsimp only
    rw [← p.leave_leave hlast]
    exact .head hstep hrest

/-! ## The steps of an operation -/

theorem leads_acquire (op : Operation) {p p' : SessionPool} {id : Id} (hs : p.Sound)
    (hidle : ∀ id ∈ p.shelf.idle, id ∈ p.network.dialled) (hacquire : p.acquire = (.ok id, p')) :
    Leads op (p, .waiting) (p', .talking (p'.network.connection id) op.dialogue none) ∧
      p'.network.dialled.Nodup ∧ id ∈ p'.network.dialled := by
  rw [SessionPool.acquire] at hacquire
  rcases htake : p.shelf.take with failure | ⟨id' | id', shelf⟩
  · rw [htake] at hacquire
    cases hacquire
  · rw [htake] at hacquire
    obtain ⟨-, -, rfl⟩ := Shelf.take_eq_none_iff.mp htake
    have hmissed : Phase.waiting.step op p = (p, .dialling) := by rw [step, htake]
    have hdial : p.dialNext = (.ok id, p') := hacquire
    have hdialled : Phase.dialling.step op p =
        (p', .talking (p'.network.connection id) op.dialogue none) := by rw [step, hdial]
    refine ⟨.head hmissed (.single hdialled), ((Move.dialled hdial).sound hs).distinct, ?_⟩
    obtain ⟨rfl, t, -, rfl⟩ := SessionPool.dialNext_ok hdial
    exact List.mem_map.mpr ⟨_, List.mem_append_right _ (List.mem_singleton.mpr rfl), rfl⟩
  · rw [htake] at hacquire
    cases hacquire
    obtain ⟨-, hshelf, -⟩ := Shelf.take_eq_some_iff.mp htake
    have htook : Phase.waiting.step op p = ({ p with shelf },
        .talking (p.network.connection id) op.dialogue none) := by rw [step, htake]
    exact ⟨.single htook, hs.distinct, hidle id (by simp [hshelf])⟩

theorem leads_release (op : Operation) (p : SessionPool) (given : Connection)
    (told : Except Failure Told) (stream : Option Stream) :
    Leads op (p, .talking given (.done told) stream)
      (conclude given told (p.release given.id).1 (p.release given.id).2) := by
  rw [SessionPool.release]
  rcases hoffer : p.shelf.offer p.remote.maxIdle (p.network.connection given.id).broken given.id
    with failure | ⟨_ | _, shelf⟩
  · exact .single (by simp only [step, Dialogue.result?, hoffer])
  · have hturnedDown : (talking given (.done told) stream).step op p =
        ({ p with shelf }, .parting given told) := by
      simp only [step, Dialogue.result?, hoffer]
    exact .head hturnedDown (.single rfl)
  · exact .single (by simp only [step, Dialogue.result?, hoffer])

theorem conclude_perform (op : Operation) {p p' : SessionPool} {id : Id}
    (hacquire : p.acquire = (.ok id, p')) (given : Connection) :
    let x := Pool.converse id op.dialogue p'
    conclude given x.1 (x.2.release id).1 (x.2.release id).2 =
      ((Pool.perform op p).2, .finished (some given) (Pool.perform op p).1) := by
  have hacquire' : Pool.acquire p = (.ok id, p') := hacquire
  dsimp only
  rw [Pool.perform, Pool.withConnection, Pool.bracket, hacquire', conclude]
  dsimp only
  rcases Pool.converse id op.dialogue p' with ⟨told, q⟩
  have hrelease : Pool.release id q = q.release id := rfl
  dsimp only
  rw [hrelease]
  rcases q.release id with ⟨failure | _, q'⟩
  · rfl
  · cases told <;> rfl

theorem leads_refused (op : Operation) {p p' : SessionPool} {failure : Failure}
    (hacquire : p.acquire = (.error failure, p')) :
    Leads op (p, .waiting) (p', .finished none (.error failure)) := by
  rw [SessionPool.acquire] at hacquire
  rcases htake : p.shelf.take with failure' | ⟨id' | id', shelf⟩
  · rw [htake] at hacquire
    cases hacquire
    exact .single (by rw [step, htake])
  · rw [htake] at hacquire
    obtain ⟨-, -, rfl⟩ := Shelf.take_eq_none_iff.mp htake
    have hdial : p.dialNext = (.error failure, p') := hacquire
    have hmissed : Phase.waiting.step op p = (p, .dialling) := by rw [step, htake]
    exact .head hmissed (.single (by rw [step, hdial]))
  · rw [htake] at hacquire
    cases hacquire

/-- Carrying out an operation step by step is carrying it out. -/
theorem leads_perform (op : Operation) {p : SessionPool} (hs : p.Sound)
    (hidle : ∀ id ∈ p.shelf.idle, id ∈ p.network.dialled) :
    ∃ given?, Leads op (p, .waiting)
      ((Pool.perform op p).2, .finished given? (Pool.perform op p).1) := by
  rcases hacquire : p.acquire with ⟨failure | id, p'⟩
  · have hfailed : Pool.perform op p = (.error failure, p') := by
      rw [Pool.perform, Pool.withConnection, Pool.bracket, show Pool.acquire p = _ from hacquire]
    rw [hfailed]
    exact ⟨none, leads_refused op hacquire⟩
  · obtain ⟨hbegun, hdistinct, hid⟩ := leads_acquire op hs hidle hacquire
    let given := p'.network.connection id
    have hgiven : given.id = id := p'.network.connection_id id
    have htalked := leads_talking op given op.dialogue { connection := given }
      (Holding.tied_new given) p' hdistinct (hgiven.symm ▸ hid) (by rw [hgiven])
    have hreleased := leads_release op (Pool.converse id op.dialogue p').2 given
      (Pool.converse id op.dialogue p').1 (Holding.run op.dialogue { connection := given }).2.stream
    rw [hgiven, conclude_perform op hacquire given] at hreleased
    exact ⟨some given, (hbegun.trans htalked).trans hreleased⟩

end Phase

/-! ## In a crew -/

namespace Crew

theorem run_leads {op : Operation} {x y : SessionPool × Phase} (hleads : Phase.Leads op x y)
    {c : Crew} {i : Nat} (hpool : c.pool = x.1) (hw : c.workers[i]? = some ⟨op, x.2⟩) :
    ∃ n, (c.run (List.replicate n i)).pool = y.1 ∧
      (c.run (List.replicate n i)).workers = c.workers.set i ⟨op, y.2⟩ := by
  -- From the front: the crew after the first step is one to which the induction applies.
  induction hleads using ReflTransGen.head_induction_on generalizing c with
  | refl =>
    obtain ⟨hi, hget⟩ := List.getElem?_eq_some_iff.mp hw
    exact ⟨0, hpool, by rw [← hget, List.set_getElem_self]; rfl⟩
  | @head x z hstep hrest ih =>
    obtain ⟨hi, -⟩ := List.getElem?_eq_some_iff.mp hw
    have hnext : (c.step i).pool = z.1 ∧ (c.step i).workers = c.workers.set i ⟨op, z.2⟩ := by
      rw [step, hw, hpool]
      exact ⟨congrArg Prod.fst hstep,
        congrArg (fun q : SessionPool × Phase => c.workers.set i ⟨op, q.2⟩) hstep⟩
    obtain ⟨n, hrun, hworkers⟩ := ih hnext.1 (by rw [hnext.2, List.getElem?_set_self hi])
    rw [hnext.2, List.set_set] at hworkers
    exact ⟨n + 1, hrun, hworkers⟩

/-- A worker of a crew whose steps nobody else's come between does what its operation does. -/
theorem run_lone {r : Remote} {scripts : List Script} {c : Crew} (h : Sound r scripts c) {i : Nat}
    {op : Operation} (hw : c.workers[i]? = some ⟨op, .waiting⟩) :
    ∃ n given?, (c.run (List.replicate n i)).pool = (Pool.perform op c.pool).2 ∧
      (c.run (List.replicate n i)).workers =
        c.workers.set i ⟨op, .finished given? (Pool.perform op c.pool).1⟩ := by
  obtain ⟨given?, hleads⟩ :=
    Phase.leads_perform op h.custody.sound fun id hid => dialled_of_idle h.custody hid
  obtain ⟨n, hrun⟩ := run_leads hleads rfl hw
  exact ⟨n, given?, hrun⟩

end Crew
end FileTransfer.Pool
