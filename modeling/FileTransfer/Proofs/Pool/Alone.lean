import FileTransfer.Proofs.Pool.CommandLines
import FileTransfer.Proofs.Pool.Crew

/-!
# Alone with a connection

What an operation comes to when it is alone with a connection, and how a worker of a crew, whose steps
others come between, keeps to that.

* `alone`: a pool with one connection, which nobody else uses.
* `perform_alone`, `passes_alone`: what comes of an operation there, and what it lets pass.
* `Phase.Keeps`, `Phase.Steps.keeps`: a worker keeps to it with each of its steps.
-/

namespace FileTransfer.Pool
open FileTransfer.Session FileTransfer.Settings
set_option autoImplicit false

/-! ## One connection -/

/-- What an operation does with a connection from beginning to end. -/
def whole (op : Operation) (given : Connection) : Except Failure Told × Holding :=
  Holding.run op.dialogue { connection := given }

theorem whole_advances (op : Operation) (given : Connection) :
    ∃ ts, ({ connection := given } : Holding).Advances ts (whole op given).2 :=
  ⟨_, Holding.advances_run op.dialogue _ (Holding.tied_new given)⟩

/-- A pool with one connection, which is idle. -/
def alone (r : Remote) (c : Connection) : SessionPool where
  remote := r
  scripts := []
  made := c.id + 1
  shelf := { idle := [c.id] }
  network := { connections := [c] }

/-- What an operation lets pass on control channels when it is alone with a connection. -/
def passes (r : Remote) (op : Operation) (c : Connection) : List (Id × Control) :=
  (Pool.perform op (⟨alone r c, []⟩ : Watched SessionPool)).2.calls.filterMap Call.control?

/-- What comes of giving back a connection to a pool that is open, whatever is on its shelf: a limit
that is no number is found out unless the connection is broken. -/
def givenBack (limit : Value) (c : Connection) : Except Failure Unit :=
  if c.broken then .ok () else (Shelf.hasRoom {} limit).map fun _ => ()

theorem Shelf.hasRoom_unit (s : Shelf) (limit : Value) :
    (s.hasRoom limit).map (fun _ => ()) = (Shelf.hasRoom {} limit).map fun _ => () := by
  unfold hasRoom
  cases hinteger : limit.integer? with
  | some n => rfl
  | none => cases limit <;> rfl

theorem offer_givenBack {s : Shelf} (hopen : s.closed = false) (limit : Value) (c : Connection)
    (id : Id) : (s.offer limit c.broken id).map (fun _ => ()) = givenBack limit c := by
  unfold Shelf.offer givenBack
  cases c.broken with
  | true => simp [hopen, Except.map]
  | false =>
    rw [if_neg Bool.false_ne_true, ← s.hasRoom_unit limit]
    rcases s.hasRoom limit with failure | _ | _ <;>
      simp [hopen, Except.map, bind, Except.bind, pure, Except.pure]

theorem release_givenBack {p : SessionPool} (hopen : p.shelf.closed = false) (id : Id)
    (hends : (hangUp (p.network.connection id)).1 = .ok ()) :
    (p.release id).1 = givenBack p.remote.maxIdle (p.network.connection id) := by
  rw [← offer_givenBack hopen _ _ id, SessionPool.release]
  rcases p.shelf.offer p.remote.maxIdle (p.network.connection id).broken id with
    failure | ⟨_ | _, shelf⟩
  · rfl
  · exact hends
  · rfl

section Alone
variable (r : Remote) (op : Operation) (c : Connection)

theorem acquire_alone :
    Pool.acquire (alone r c) = (.ok c.id, { alone r c with shelf := {} }) := rfl

theorem connection_alone : (alone r c).network.connection c.id = c := by
  simp [alone, Network.connection]

theorem perform_alone (hends : (hangUp (whole op c).2.connection).1 = .ok ()) :
    (Pool.perform op (alone r c)).1 =
      unlessFails ((whole op c).1 >>= Told.answer) (givenBack r.maxIdle (whole op c).2.connection) := by
  have hconnection := connection_alone r c
  obtain ⟨ts, hadvances⟩ := whole_advances op c
  have hid : (whole op c).2.connection.id = c.id := hadvances.id_eq
  let p : SessionPool := { alone r c with shelf := {} }
  have hrun : Holding.run op.dialogue { connection := p.network.connection c.id } = whole op c :=
    congrArg (fun d => Holding.run op.dialogue { connection := d }) hconnection
  have hleft : (Pool.converse c.id op.dialogue p).2.network.connection c.id =
      (whole op c).2.connection := by
    rw [SessionPool.converse_eq, hrun, ← hid]
    exact Network.connection_withConnection_self (by simp [p, alone, Network.dialled, hid])
  have hreleased : (Pool.release c.id (Pool.converse c.id op.dialogue p).2).1 =
      givenBack r.maxIdle (whole op c).2.connection := by
    rw [← hleft] at hends ⊢
    exact release_givenBack (p := (Pool.converse c.id op.dialogue p).2) rfl c.id hends
  rw [perform_eq (acquire_alone r c) op (congrArg Prod.fst hrun), hreleased]

theorem passes_alone : passes r op c = (whole op c).2.trace.control.map (Prod.mk c.id) := by
  obtain ⟨added, htrace, -, hcontrol⟩ :=
    (Holding.advances_run op.dialogue { connection := c } (Holding.tied_new c)).traced
  have hconnection : (alone r c).network.connection c.id = c := connection_alone r c
  have hadded : (whole op c).2.trace = added := htrace
  rw [passes, Watched.perform_watched]
  dsimp only
  rw [List.nil_append, usage_control op.dialogue (acquire_alone r c), hadded, hcontrol]
  exact congrArg (fun d => ((Holding.turns op.dialogue { connection := d }).flatMap
    Turn.control).map (Prod.mk c.id)) hconnection

end Alone

/-! ## A worker among others -/

/-- The result of an operation for which no session could be set up. -/
def NotSetUp (r : Remote) (scripts : List Script) (result : Except Failure Answer) : Prop :=
  ∃ id failure, (dial r id (scripts.getD id Script.refused)).1 = .error failure ∧
    result = .error failure

theorem SessionPool.dial_of_dialNext_error {p p' : SessionPool} {failure : Failure}
    (h : p.dialNext = (.error failure, p')) :
    (dial p.remote p.made (p.scripts.getD p.made Script.refused)).1 = .error failure := by
  rw [dialNext] at h
  rcases hdial : dial p.remote p.made (p.scripts.getD p.made Script.refused) with ⟨failure' | d, t⟩
  · rw [hdial] at h
    cases h
    rfl
  · rw [hdial] at h
    cases h

namespace Phase
variable {r : Remote} {scripts : List Script} {op : Operation} {p p' : SessionPool}
  {phase phase' : Phase} {said : List Control}

/-- What a worker that has let `said` pass is in the middle of: what is left of its dialogue comes to
what the whole would have come to, and what it has come to is what the whole comes to. -/
def Keeps (r : Remote) (scripts : List Script) (op : Operation) (n : Network) (said : List Control) :
    Phase → Prop
  | .waiting | .dialling => said = []
  | .talking given left stream =>
    ∃ t : Trace, t.control = said ∧
      Holding.run left
        (({ connection := n.connection given.id, stream } : Holding).after t) = whole op given
  | .parting given told =>
    told = (whole op given).1 ∧ said = (whole op given).2.trace.control ∧
      n.connection given.id = (whole op given).2.connection ∧
      givenBack r.maxIdle (whole op given).2.connection = .ok ()
  | .finished none result => said = [] ∧ NotSetUp r scripts result
  | .finished (some given) result =>
    said = (whole op given).2.trace.control ∧
      result = unlessFails ((whole op given).1 >>= Told.answer)
        (givenBack r.maxIdle (whole op given).2.connection)

/-- A worker that was given no connection let nothing pass. -/
theorem Keeps.silent {n : Network} (h : phase.Keeps r scripts op n said)
    (hgiven : phase.given? = none) : said = [] := by
  cases phase with
  | waiting | dialling => exact h
  | talking | parting => cases hgiven
  | finished given? result =>
    obtain rfl : given? = none := hgiven
    exact h.1

/-- What others do to their connections is nothing to a worker. -/
theorem Keeps.congr {n n' : Network} (h : phase.Keeps r scripts op n said)
    (hsame : ∀ id ∈ phase.caller.held ++ phase.caller.due, n'.connection id = n.connection id) :
    phase.Keeps r scripts op n' said := by
  cases phase with
  | waiting | dialling => exact h
  | talking given left stream =>
    have hconnection := hsame given.id (by simp [caller, Caller.held])
    rw [Keeps, hconnection]
    exact h
  | parting given told =>
    have hconnection := hsame given.id (by simp [caller, Caller.held, Caller.due])
    rw [Keeps, hconnection]
    exact h
  | finished given? result => cases given? <;> exact h

theorem keeps_new (n : Network) (id : Id) :
    (talking (n.connection id) op.dialogue none).Keeps r scripts op n [] := by
  refine ⟨{}, rfl, ?_⟩
  rw [n.connection_id]
  rfl

/-- At its end a dialogue has come to what the whole comes to, and so has the connection. -/
theorem Keeps.ended {n : Network} {given : Connection} {told : Except Failure Told}
    {stream : Option Stream} (h : (talking given (.done told) stream).Keeps r scripts op n said) :
    told = (whole op given).1 ∧ said = (whole op given).2.trace.control ∧
      n.connection given.id = (whole op given).2.connection := by
  obtain ⟨t, ht, hrun⟩ := h
  have hsaid : t ++ {} = (whole op given).2.trace := by rw [← hrun]; rfl
  refine ⟨by rw [← hrun]; rfl, ?_, by rw [← hrun]; rfl⟩
  rw [← hsaid, Trace.append_empty, ht]

/-- Whether the connection is kept or not, what comes of giving it back is what comes of it at any
time. -/
theorem Keeps.offered {given : Connection} {told : Except Failure Told} {stream : Option Stream}
    (h : (talking given (.done told) stream).Keeps p.remote p.scripts op p.network said)
    (hopen : p.shelf.closed = false) {answer : Except Failure (Bool × Shelf)}
    (hoffer : p.shelf.offer p.remote.maxIdle (p.network.connection given.id).broken given.id =
      answer) :
    givenBack p.remote.maxIdle (whole op given).2.connection = answer.map fun _ => () := by
  obtain ⟨-, -, hconnection⟩ := h.ended
  rw [← hoffer, ← hconnection]
  exact (offer_givenBack hopen _ _ _).symm

theorem Steps.keeps (h : Steps op p phase p' phase') (htied : phase.Tied)
    (hopen : p.shelf.closed = false) (hheld : ∀ id ∈ phase.caller.held, id ∈ p.network.dialled)
    (hends : ∀ given told, phase = .parting given told →
      (hangUp (whole op given).2.connection).1 = .ok ())
    (hkeeps : phase.Keeps p.remote p.scripts op p.network said) :
    phase'.Keeps p.remote p.scripts op p'.network (said ++ spoken p p') := by
  have hquiet : phase'.caller.held ≠ phase.caller.held ∨ phase.caller.held = [] →
      said ++ spoken p p' = said := fun hheld => by rw [h.spoken_eq_nil hheld, List.append_nil]
  cases h with
  | refused h =>
    rw [Shelf.take, hopen, if_neg Bool.false_ne_true] at h
    split at h <;> cases h
  | undialled h =>
    rw [hquiet (.inr rfl)]
    exact ⟨hkeeps, p.made, _, SessionPool.dial_of_dialNext_error h, rfl⟩
  | missed h =>
    rw [hquiet (.inr rfl)]
    exact hkeeps
  | took h =>
    rw [hquiet (.inr rfl), show said = [] from hkeeps]
    exact keeps_new p.network _
  | dialled h =>
    rw [hquiet (.inr rfl), show said = [] from hkeeps]
    exact keeps_new p'.network _
  | @went given left left' stream h' h =>
    obtain ⟨t, ht, hrun⟩ := hkeeps
    obtain ⟨hid, -, -, -⟩ := went_spec htied h
    have hdialled := hheld given.id (List.mem_singleton.mpr rfl)
    have hconnection : ((p.network.withConnection h'.connection).seen h'.trace).connection given.id =
        h'.connection := by
      rw [← hid] at hdialled ⊢
      exact Network.connection_withConnection_self hdialled
    have hspoken : spoken p { p with
        network := (p.network.withConnection h'.connection).seen h'.trace } = h'.trace.control := by
      rw [spoken, Network.since_of_trace rfl]
      rfl
    refine ⟨t ++ h'.trace, by rw [Trace.control_append, ht, hspoken], ?_⟩
    have hafter := Holding.advance_after { connection := p.network.connection given.id, stream } t left
    rw [h] at hafter
    -- What the holder is handed next is what this step left, with the same seen before it.
    have hnext : ({ connection := h'.connection, stream := h'.stream } : Holding).after
        (t ++ h'.trace) = h'.after t := by
      rw [Holding.after, Holding.after, Trace.append_empty]
    rw [hconnection, hnext, ← hrun, ← Holding.run_advance left, hafter]
  | kept notes h =>
    obtain ⟨rfl, hsaid, -⟩ := hkeeps.ended
    rw [hquiet (.inl (List.cons_ne_nil _ _).symm)]
    refine ⟨hsaid, ?_⟩
    rw [hkeeps.offered hopen h]
    rfl
  | unoffered h =>
    obtain ⟨rfl, hsaid, -⟩ := hkeeps.ended
    rw [hquiet (.inl (List.cons_ne_nil _ _).symm)]
    refine ⟨hsaid, ?_⟩
    rw [hkeeps.offered hopen h]
    rfl
  | turnedDown h =>
    obtain ⟨rfl, hsaid, hconnection⟩ := hkeeps.ended
    rw [hquiet (.inl (List.cons_ne_nil _ _).symm)]
    exact ⟨rfl, hsaid, hconnection, hkeeps.offered hopen h⟩
  | @parted p' given told notes h =>
    obtain ⟨rfl, hsaid, -, hback⟩ := hkeeps
    rw [hquiet (.inr rfl)]
    refine ⟨hsaid, ?_⟩
    rw [hback]
    rfl
  | @stranded p' given told failure h =>
    obtain ⟨-, -, hconnection, -⟩ := hkeeps
    have hended := hends given told rfl
    rw [← hconnection, show (hangUp (p.network.connection given.id)).1 = .error failure from
      congrArg Prod.fst h] at hended
    cases hended
  | rested given? result =>
    rw [hquiet (.inr rfl)]
    exact hkeeps

end Phase
end FileTransfer.Pool
