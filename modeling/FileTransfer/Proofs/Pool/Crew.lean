import FileTransfer.Proofs.Pool.Custody
import FileTransfer.Proofs.Pool.Watch
import FileTransfer.Proofs.Session.Stepwise

/-!
# Operations side by side

Any number of workers share one pool of sessions, each with an operation of its own. A worker takes its
operation one step at a time: it looks at the shelf, sets up a session, makes one request of its
connection or reads one line of a reply, puts the connection back, or ends its session. Between two steps
of one worker others may take any number of theirs.

* `Phase`, `Phase.step`: what a worker is in the middle of, and its next step.
* `Crew`, `Crew.run`: a pool and its workers, and what comes of a schedule.
* `Phase.Steps`: the steps there are.
* `Steps.moves`, `Steps.given_cases`, `Steps.connection_eq`, `Steps.quiet_or_on`: a step as one of a
  caller, what it does to the connections, and what is seen of it.
-/

namespace FileTransfer.Pool
open FileTransfer.Session FileTransfer.Settings
set_option autoImplicit false

/-! ## Workers -/

/-- What a worker is in the middle of. With a connection comes the state in which it was given out. -/
inductive Phase where
  | waiting
  /-- The shelf was empty. -/
  | dialling
  | talking (given : Connection) (left : Dialogue Told) (stream : Option Stream)
  /-- The pool did not keep the connection. -/
  | parting (given : Connection) (told : Except Failure Told)
  | finished (given? : Option Connection) (result : Except Failure Answer)

namespace Phase

def given? : Phase → Option Connection
  | .talking given _ _ | .parting given _ => some given
  | .finished given? _ => given?
  | _ => none

def caller : Phase → Caller
  | .dialling => .dialling
  | .talking given _ _ => .holding given.id
  | .parting given _ => .closing [given.id]
  | _ => .away

/-- What an operation was told is decoded once its connection is given back. -/
def conclude (given : Connection) (told : Except Failure Told) (released : Except Failure Unit)
    (p : SessionPool) : SessionPool × Phase :=
  match unlessFails told released with
  | .error failure => (p, .finished (some given) (.error failure))
  | .ok told => (Pool.remark told.notes p, .finished (some given) told.answer)

def step (op : Operation) (p : SessionPool) : Phase → SessionPool × Phase
  | .waiting =>
    match p.shelf.take with
    | .error failure => (p, .finished none (.error failure))
    | .ok (some id, shelf) =>
      ({ p with shelf }, .talking (p.network.connection id) op.dialogue none)
    | .ok (none, shelf) => ({ p with shelf }, .dialling)
  | .dialling =>
    match p.dialNext with
    | (.error failure, p) => (p, .finished none (.error failure))
    | (.ok id, p) => (p, .talking (p.network.connection id) op.dialogue none)
  | .talking given left stream =>
    match left.result? with
    | none =>
      let (left, stream, p) := Pool.use given.id stream (Holding.advance left) p
      (p, .talking given left stream)
    | some told =>
      match p.shelf.offer p.remote.maxIdle (p.network.connection given.id).broken given.id with
      | .error failure => conclude given told (.error failure) p
      | .ok (true, shelf) => conclude given told (.ok ()) { p with shelf }
      | .ok (false, shelf) => ({ p with shelf }, .parting given told)
  | .parting given told =>
    let (released, p) := p.closeConnection given.id
    conclude given told released p
  | .finished given? result => (p, .finished given? result)

end Phase

structure Worker where
  op : Operation
  phase : Phase := .waiting

/-- That a worker was given a connection, in a certain state. -/
structure Use where
  worker : Nat
  op : Operation
  given : Connection

/-- A pool and its workers, the connections that were given out, and what each worker was seen to do. -/
structure Crew where
  pool : SessionPool
  workers : List Worker
  uses : List Use := []
  log : List (Nat × Event) := []

namespace Crew

/-- Workers with operations that are about to begin, and a new pool. -/
def start (r : Remote) (scripts : List Script) (ops : List Operation) : Crew where
  pool := { remote := r, scripts }
  workers := ops.map fun op => { op }

/-- The crew after a step that brought worker `i` to a phase. -/
def next (c : Crew) (i : Nat) (w : Worker) (pool : SessionPool) (phase : Phase) : Crew where
  pool := pool
  workers := c.workers.set i { w with phase }
  uses := c.uses ++ (if w.phase.given?.isNone then phase.given?.toList else []).map (Use.mk i w.op)
  log := c.log ++ (c.pool.network.since pool.network).map (Prod.mk i)

def step (c : Crew) (i : Nat) : Crew :=
  match c.workers[i]? with
  | none => c
  | some w =>
    let (pool, phase) := w.phase.step w.op c.pool
    c.next i w pool phase

/-- The workers take their steps in the order of a schedule. -/
def run (c : Crew) (schedule : List Nat) : Crew := schedule.foldl step c

/-- What a worker let pass on control channels. -/
def said (c : Crew) (i : Nat) : List Control :=
  c.log.filterMap fun (j, e) => if j = i then e.action.control? else none

/-- What passed on the control channel of a connection, with the worker it passed for. -/
def heard (c : Crew) (id : Id) : List (Nat × Control) :=
  c.log.filterMap fun (j, e) =>
    if e.connection = id then e.action.control?.map (Prod.mk j) else none

def usesOf (c : Crew) (id : Id) : List Use := c.uses.filter fun u => u.given.id = id

def crowd (c : Crew) : Crowd := ⟨c.pool, c.workers.map fun w => w.phase.caller⟩

end Crew

/-! ## What a step can be -/

/-- The steps there are, each with what it depends on. -/
inductive Phase.Steps (op : Operation) : SessionPool → Phase → SessionPool → Phase → Prop
  | refused {p : SessionPool} {failure : Failure} (h : p.shelf.take = .error failure) :
      Steps op p .waiting p (.finished none (.error failure))
  | took {p : SessionPool} {id : Id} {shelf : Shelf} (h : p.shelf.take = .ok (some id, shelf)) :
      Steps op p .waiting { p with shelf } (.talking (p.network.connection id) op.dialogue none)
  | missed {p : SessionPool} {shelf : Shelf} (h : p.shelf.take = .ok (none, shelf)) :
      Steps op p .waiting { p with shelf } .dialling
  | dialled {p p' : SessionPool} {id : Id} (h : p.dialNext = (.ok id, p')) :
      Steps op p .dialling p' (.talking (p'.network.connection id) op.dialogue none)
  | undialled {p p' : SessionPool} {failure : Failure} (h : p.dialNext = (.error failure, p')) :
      Steps op p .dialling p' (.finished none (.error failure))
  | went {p : SessionPool} {given : Connection} {left left' : Dialogue Told} {stream : Option Stream}
      {h' : Holding}
      (h : Holding.advance left { connection := p.network.connection given.id, stream } =
        (left', h')) :
      Steps op p (.talking given left stream)
        { p with network := (p.network.withConnection h'.connection).seen h'.trace }
        (.talking given left' h'.stream)
  | kept {p : SessionPool} {given : Connection} {told : Except Failure Told}
      {stream : Option Stream} {shelf : Shelf} (notes : List String)
      (h : p.shelf.offer p.remote.maxIdle (p.network.connection given.id).broken given.id =
        .ok (true, shelf)) :
      Steps op p (.talking given (.done told) stream)
        { p with shelf, network := p.network.seen ⟨[], notes⟩ }
        (.finished (some given) (told >>= Told.answer))
  | unoffered {p : SessionPool} {given : Connection} {told : Except Failure Told}
      {stream : Option Stream} {failure : Failure}
      (h : p.shelf.offer p.remote.maxIdle (p.network.connection given.id).broken given.id =
        .error failure) :
      Steps op p (.talking given (.done told) stream) p (.finished (some given) (.error failure))
  | turnedDown {p : SessionPool} {given : Connection} {told : Except Failure Told}
      {stream : Option Stream} {shelf : Shelf}
      (h : p.shelf.offer p.remote.maxIdle (p.network.connection given.id).broken given.id =
        .ok (false, shelf)) :
      Steps op p (.talking given (.done told) stream) { p with shelf } (.parting given told)
  | parted {p p' : SessionPool} {given : Connection} {told : Except Failure Told}
      (notes : List String) (h : p.closeConnection given.id = (.ok (), p')) :
      Steps op p (.parting given told) { p' with network := p'.network.seen ⟨[], notes⟩ }
        (.finished (some given) (told >>= Told.answer))
  | stranded {p p' : SessionPool} {given : Connection} {told : Except Failure Told}
      {failure : Failure} (h : p.closeConnection given.id = (.error failure, p')) :
      Steps op p (.parting given told) p' (.finished (some given) (.error failure))
  | rested {p : SessionPool} (given? : Option Connection) (result : Except Failure Answer) :
      Steps op p (.finished given? result) p (.finished given? result)

namespace Phase

theorem conclude_ok (given : Connection) (told : Except Failure Told) (p : SessionPool) :
    ∃ notes, conclude given told (.ok ()) p =
      ({ p with network := p.network.seen ⟨[], notes⟩ },
        .finished (some given) (told >>= Told.answer)) := by
  cases told with
  | error failure =>
    refine ⟨[], ?_⟩
    rw [Network.seen, show (⟨[], []⟩ : Trace) = {} from rfl, Trace.append_empty]
    rfl
  | ok told => exact ⟨told.notes, rfl⟩

theorem steps_step (op : Operation) (p : SessionPool) (phase : Phase) :
    Steps op p phase (phase.step op p).1 (phase.step op p).2 := by
  cases phase with
  | waiting =>
    rw [step]
    rcases htake : p.shelf.take with failure | ⟨id | id, shelf⟩
    · exact .refused htake
    · exact .missed htake
    · exact .took htake
  | dialling =>
    rw [step]
    rcases hdial : p.dialNext with ⟨failure | id, p'⟩
    · exact .undialled hdial
    · exact .dialled hdial
  | talking given left stream =>
    rw [step]
    cases hleft : left.result? with
    | none => exact .went rfl
    | some told =>
      obtain rfl := Dialogue.result?_eq_some.mp hleft
      dsimp only
      rcases hoffer : p.shelf.offer p.remote.maxIdle (p.network.connection given.id).broken given.id
        with failure | ⟨_ | _, shelf⟩
      · exact .unoffered hoffer
      · exact .turnedDown hoffer
      · obtain ⟨notes, hconclude⟩ := conclude_ok given told { p with shelf }
        dsimp only
        rw [hconclude]
        exact .kept notes hoffer
  | parting given told =>
    rw [step]
    rcases hclose : p.closeConnection given.id with ⟨failure | _, p'⟩
    · exact .stranded hclose
    · obtain ⟨notes, hconclude⟩ := conclude_ok given told p'
      dsimp only
      rw [hconclude]
      exact .parted notes hclose
  | finished given? result => exact .rested given? result

end Phase

/-! ## Workers as callers -/

open Relation

namespace Phase
variable {op : Operation} {p p' : SessionPool} {phase phase' : Phase}

/-- The data channel of a worker is one of the connection it was given. -/
def Tied : Phase → Prop
  | .talking given _ stream => ∀ s, stream = some s → s.connection = given.id
  | _ => True

theorem caller_talking (n : Network) (id : Id) (left : Dialogue Told) (stream : Option Stream) :
    (talking (n.connection id) left stream).caller = .holding id :=
  congrArg Caller.holding (n.connection_id id)

/-- What a step of a dialogue makes of the connection. -/
theorem went_spec {given : Connection} {left left' : Dialogue Told} {stream : Option Stream}
    {h' : Holding} (htied : (talking given left stream).Tied)
    (h : Holding.advance left { connection := p.network.connection given.id, stream } = (left', h')) :
    h'.connection.id = given.id ∧
      h'.connection.carrier = (p.network.connection given.id).carrier ∧ h'.trace.On given.id ∧
      (talking given left' h'.stream).Tied := by
  have hid := p.network.connection_id given.id
  have hstrides := Holding.strides_advance left
    { connection := p.network.connection given.id, stream } fun s hs => (htied s hs).trans hid.symm
  rw [h] at hstrides
  obtain ⟨added, htrace, hon⟩ := hstrides.traced
  have hid' : h'.connection.id = given.id := hstrides.id_eq.trans hid
  refine ⟨hid', hstrides.carrier_eq, ?_, fun s hs => (hstrides.tied s hs).trans hid'⟩
  have hall : h'.trace = added := htrace
  rw [hall, ← hid]
  exact hon

/-- A step of a worker is a run of steps of a caller. -/
theorem Steps.moves (h : Steps op p phase p' phase') (htied : phase.Tied) :
    ReflTransGen Move (p, phase.caller) (p', phase'.caller) := by
  cases h with
  | refused h => exact .single (.refused h)
  | took h =>
    rw [caller_talking]
    exact .single (.took h)
  | missed h => exact .single (.missed h)
  | dialled h =>
    rw [caller_talking]
    exact .single (.dialled h)
  | undialled h => exact .single (.undialled h)
  | went h =>
    obtain ⟨hid, hcarrier, hon, -⟩ := went_spec htied h
    exact .single (.used _ _ hid hcarrier hon)
  | kept notes h => exact .head (.kept h) (.single (.remarked notes))
  | unoffered h => exact .single (.unoffered h)
  | turnedDown h => exact .single (.turnedDown h)
  -- A caller ends the session, has no other to end, and leaves its notes: three steps of its own.
  | parted notes h => exact .head (.parted h) (.head .finished (.single (.remarked notes)))
  | stranded h => exact .single (.stranded h)
  | rested given? result => exact .refl

theorem tied_new (given : Connection) (left : Dialogue Told) : (talking given left none).Tied := by
  intro s hs
  cases hs

theorem Steps.tied (h : Steps op p phase p' phase') (htied : phase.Tied) : phase'.Tied := by
  cases h with
  | went h => exact (went_spec htied h).2.2.2
  | took h => exact tied_new _ _
  | dialled h => exact tied_new _ _
  | _ => trivial

end Phase

/-! ## What a step leaves as it is -/

namespace Phase
variable {op : Operation} {p p' : SessionPool} {phase phase' : Phase}

/-- The settings of a pool stay as they are, and no worker closes it. -/
theorem Steps.settings (h : Steps op p phase p' phase') :
    p'.remote = p.remote ∧ p'.scripts = p.scripts ∧ p'.shelf.closed = p.shelf.closed := by
  cases h with
  | took h =>
    obtain ⟨hopen, -, hopen'⟩ := Shelf.take_eq_some_iff.mp h
    exact ⟨rfl, rfl, hopen'.trans hopen.symm⟩
  | missed h =>
    obtain ⟨-, -, rfl⟩ := Shelf.take_eq_none_iff.mp h
    exact ⟨rfl, rfl, rfl⟩
  | dialled h =>
    obtain ⟨-, t, -, rfl⟩ := SessionPool.dialNext_ok h
    exact ⟨rfl, rfl, rfl⟩
  | undialled h =>
    obtain ⟨t, -, rfl⟩ := SessionPool.dialNext_error h
    exact ⟨rfl, rfl, rfl⟩
  | kept notes h =>
    obtain ⟨-, -, -, rfl⟩ := Shelf.offer_eq_true_iff.mp h
    exact ⟨rfl, rfl, rfl⟩
  | turnedDown h =>
    obtain ⟨-, rfl⟩ := Shelf.offer_eq_false_iff.mp h
    exact ⟨rfl, rfl, rfl⟩
  | parted notes h =>
    rw [SessionPool.closeConnection_network h]
    exact ⟨rfl, rfl, rfl⟩
  | stranded h =>
    rw [SessionPool.closeConnection_network h]
    exact ⟨rfl, rfl, rfl⟩
  | _ => exact ⟨rfl, rfl, rfl⟩

/-- A worker is given a connection when it begins to talk: one from the shelf as it is there, or one
just set up. Otherwise a step gives it none, and sets up none. -/
theorem Steps.given_cases (h : Steps op p phase p' phase') :
    phase'.given? = phase.given? ∧ (∀ id ∈ phase'.caller.held, id ∈ phase.caller.held) ∧
        p'.network.dialled = p.network.dialled ∨
      phase.given? = none ∧ phase.caller.held = [] ∧ ∃ id,
        phase' = .talking (p'.network.connection id) op.dialogue none ∧
          (id ∈ p.shelf.idle ∧ p'.network = p.network ∨
            id = p.made ∧ ∃ t, p'.network =
              ⟨p.network.connections ++ [Pool.dialled p.remote p.made p.nextScript], t⟩) := by
  cases h with
  | @took id shelf h =>
    obtain ⟨-, hidle, -⟩ := Shelf.take_eq_some_iff.mp h
    exact .inr ⟨rfl, rfl, id, rfl, .inl ⟨by simp [hidle], rfl⟩⟩
  | dialled h =>
    obtain ⟨rfl, t, -, rfl⟩ := SessionPool.dialNext_ok h
    exact .inr ⟨rfl, rfl, p.made, rfl, .inr ⟨rfl, _, rfl⟩⟩
  | undialled h =>
    obtain ⟨t, -, rfl⟩ := SessionPool.dialNext_error h
    exact .inl ⟨rfl, fun id hid => hid, rfl⟩
  | went h => exact .inl ⟨rfl, fun id hid => hid, Network.dialled_withConnection p.network _⟩
  | parted notes h =>
    rw [SessionPool.closeConnection_network h]
    exact .inl ⟨rfl, fun id hid => hid, rfl⟩
  | stranded h =>
    rw [SessionPool.closeConnection_network h]
    exact .inl ⟨rfl, fun id hid => hid, rfl⟩
  | kept | unoffered | turnedDown => exact .inl ⟨rfl, fun id hid => absurd hid List.not_mem_nil, rfl⟩
  | _ => exact .inl ⟨rfl, fun id hid => hid, rfl⟩

/-- A worker lets go of its connection when its dialogue is at its end, and leaves it as it is. -/
theorem Steps.lets_go (h : Steps op p phase p' phase') {id : Id} (hid : id ∈ phase.caller.held)
    (hgone : id ∉ phase'.caller.held) :
    ∃ given told stream, phase = .talking given (.done told) stream ∧ given.id = id ∧
      p'.network.connection id = p.network.connection id := by
  cases h with
  | went h => exact absurd hid hgone
  | kept notes h => exact ⟨_, _, _, rfl, (List.mem_singleton.mp hid).symm, rfl⟩
  | unoffered h => exact ⟨_, _, _, rfl, (List.mem_singleton.mp hid).symm, rfl⟩
  | turnedDown h => exact ⟨_, _, _, rfl, (List.mem_singleton.mp hid).symm, rfl⟩
  | _ => cases hid

/-- A step changes no connection but the one its worker holds. -/
theorem Steps.connection_eq (h : Steps op p phase p' phase') (htied : phase.Tied) {id : Id}
    (hmade : id < p.made) (hheld : id ∉ phase.caller.held) :
    p'.network.connection id = p.network.connection id := by
  cases h with
  | dialled h =>
    obtain ⟨-, t, -, rfl⟩ := SessionPool.dialNext_ok h
    exact Network.connection_append_of_ne (n := p.network) (Nat.ne_of_lt hmade)
  | undialled h =>
    obtain ⟨t, -, rfl⟩ := SessionPool.dialNext_error h
    rfl
  | went h =>
    refine Network.connection_withConnection_of_ne fun hid => hheld ?_
    rw [hid, (went_spec htied h).1]
    exact List.mem_singleton.mpr rfl
  | parted notes h =>
    rw [SessionPool.closeConnection_network h]
    rfl
  | stranded h =>
    rw [SessionPool.closeConnection_network h]
    rfl
  | _ => rfl

end Phase

/-! ## What is seen of a step -/

/-- What a step lets pass on control channels. -/
def spoken (p p' : SessionPool) : List Control :=
  (p.network.since p'.network).filterMap fun e => e.action.control?

theorem control_hangUp (c : Connection) : ∀ e ∈ (hangUp c).2.events, e.action.control? = none := by
  unfold hangUp
  split
  · simp
  · split
    · simp [Connection.event, Action.control?]
    · split <;> simp [Connection.event, Action.control?]

namespace Phase
variable {op : Operation} {p p' : SessionPool} {phase phase' : Phase}

/-- Nothing passes on a control channel but in a step of a dialogue. -/
theorem Steps.quiet (h : Steps op p phase p' phase')
    (hheld : phase'.caller.held ≠ phase.caller.held ∨ phase.caller.held = []) :
    ∀ e ∈ p.network.since p'.network, e.action.control? = none := by
  cases h with
  | dialled h =>
    obtain ⟨-, t, ht, rfl⟩ := SessionPool.dialNext_ok h
    rw [Network.since_of_trace rfl]
    exact fun e he => (ht e he).2
  | undialled h =>
    obtain ⟨t, ht, rfl⟩ := SessionPool.dialNext_error h
    rw [Network.since_of_trace rfl]
    exact fun e he => (ht e he).2
  | went h => simp [caller, Caller.held] at hheld
  | kept notes h =>
    rw [Network.since_of_trace rfl]
    exact fun e he => absurd he List.not_mem_nil
  | @parted p' given told notes h =>
    obtain rfl := SessionPool.closeConnection_network h
    let t := (hangUp (p.network.connection given.id)).2
    let u : Trace := ⟨[], notes⟩
    rw [Network.since_of_trace (Trace.append_assoc p.network.trace t u)]
    intro e he
    rcases List.mem_append.mp he with he | he
    · exact control_hangUp _ e he
    · cases he
  | stranded h =>
    obtain rfl := SessionPool.closeConnection_network h
    rw [Network.since_of_trace rfl]
    exact control_hangUp _
  | _ =>
    rw [Network.since_of_trace (Trace.append_empty _).symm]
    exact fun e he => absurd he List.not_mem_nil

theorem Steps.spoken_eq_nil (h : Steps op p phase p' phase')
    (hheld : phase'.caller.held ≠ phase.caller.held ∨ phase.caller.held = []) : spoken p p' = [] :=
  List.filterMap_eq_nil_iff.mpr (h.quiet hheld)

/-- What passes on a control channel passes on that of the connection that the worker holds. -/
theorem Steps.quiet_or_on (h : Steps op p phase p' phase') (htied : phase.Tied) :
    (∀ e ∈ p.network.since p'.network, e.action.control? = none) ∨
      ∃ id ∈ phase.caller.held, ∀ e ∈ p.network.since p'.network, e.connection = id := by
  have hquiet := h.quiet
  cases h with
  | @went given left left' stream h' h =>
    obtain ⟨-, -, hon, -⟩ := went_spec htied h
    refine .inr ⟨given.id, List.mem_singleton.mpr rfl, fun e he => ?_⟩
    rw [Network.since_of_trace rfl] at he
    exact (hon e he).1
  | kept | unoffered | turnedDown => exact .inl (hquiet (.inl (List.cons_ne_nil _ _).symm))
  | _ => exact .inl (hquiet (.inr rfl))

end Phase

end FileTransfer.Pool
