import FileTransfer.Pool.Sessions
import FileTransfer.Proofs.Session.Conduct

/-!
# What a pool does to its connections

What each part of a pool of sessions does to the connections there are, to what is seen of them, and
to the shelf.

* `Network.dialled`, `Network.parted`: the connections that were set up, and how often one took its
  leave.
* `Network.connection_withConnection`, …: looking up a connection after a change.
* `Shelf.take_eq_some_iff`, `Shelf.offer_eq_true_iff`, …: when a connection leaves the shelf or comes to
  it.
* `dialNext_ok`, `closeConnection_spec`, `converse_spec`: the other parts of a pool.
-/

namespace FileTransfer.Pool
open FileTransfer.Session FileTransfer.Settings
set_option autoImplicit false

/-! ## Leaves taken -/

/-- Whether an event is the leave that a connection takes. -/
def partsFrom (id : Id) (e : Event) : Bool :=
  match e.action with
  | .quit => e.connection = id
  | _ => false

theorem partsFrom_eq_false {id : Id} {e : Event} (h : e.action ≠ .quit) : partsFrom id e = false := by
  unfold partsFrom
  split
  · next hquit => exact absurd hquit h
  · rfl

/-- How often a connection takes its leave in a stretch of time. -/
def partings (t : Trace) (id : Id) : Nat := t.events.countP (partsFrom id)

theorem partings_append (a b : Trace) (id : Id) :
    partings (a ++ b) id = partings a id + partings b id := List.countP_append

theorem partings_of_on {t : Trace} {on : Id} (h : t.On on) (id : Id) : partings t id = 0 := by
  refine List.countP_eq_zero.mpr fun e he => ?_
  rw [partsFrom_eq_false (h e he).2]
  exact Bool.false_ne_true

/-! ## Looking up connections -/

namespace Network

def dialled (n : Network) : List Id := n.connections.map (·.id)

def parted (n : Network) (id : Id) : Nat := partings n.trace id

theorem connection_id (n : Network) (id : Id) : (n.connection id).id = id := by
  unfold connection
  cases hfind : n.connections.find? (·.id = id) with
  | none => rfl
  | some c => simpa using List.find?_some hfind

theorem connection_mem {n : Network} {id : Id} (h : id ∈ n.dialled) :
    n.connection id ∈ n.connections := by
  obtain ⟨c, hc, rfl⟩ := List.mem_map.mp h
  unfold connection
  cases hfind : n.connections.find? (·.id = c.id) with
  | none => exact absurd (List.find?_eq_none.mp hfind c hc) (by simp)
  | some d => exact List.mem_of_find?_eq_some hfind

theorem dialled_withConnection (n : Network) (c : Connection) :
    (n.withConnection c).dialled = n.dialled := by
  unfold dialled withConnection
  rw [List.map_map]
  refine List.map_congr_left fun d _ => ?_
  rw [Function.comp_apply]
  split
  · next h => exact h.symm
  · rfl

theorem find_withConnection (n : Network) (c : Connection) (id : Id) :
    (n.withConnection c).connections.find? (·.id = id) =
      (n.connections.find? (·.id = id)).map fun d => if d.id = c.id then c else d := by
  have hsame : ((fun d : Connection => decide (d.id = id)) ∘
      fun d => if d.id = c.id then c else d) = fun d => decide (d.id = id) := by
    funext d
    rw [Function.comp_apply]
    split
    · next h => rw [h]
    · rfl
  rw [withConnection, List.find?_map, hsame]

theorem connection_withConnection_self {n : Network} {c : Connection} (h : c.id ∈ n.dialled) :
    (n.withConnection c).connection c.id = c := by
  obtain ⟨d, hd, hid⟩ := List.mem_map.mp h
  unfold connection
  rw [find_withConnection]
  cases hfind : n.connections.find? (·.id = c.id) with
  | none => exact absurd (List.find?_eq_none.mp hfind d hd) (by simp [hid])
  | some e =>
    have hmatch : e.id = c.id := by simpa using List.find?_some hfind
    rw [Option.map_some, if_pos hmatch, Option.getD_some]

/-- The connections after a change run on what they ran on before. -/
theorem carrier_withConnection {n : Network} {c d : Connection}
    (hcarrier : c.carrier = (n.connection c.id).carrier) (hd : d ∈ (n.withConnection c).connections) :
    ∃ e ∈ n.connections, d.carrier = e.carrier := by
  obtain ⟨e, he, rfl⟩ := List.mem_map.mp hd
  split
  · next hid =>
    exact ⟨_, connection_mem (List.mem_map.mpr ⟨e, he, hid⟩), hcarrier⟩
  · exact ⟨e, he, rfl⟩

theorem connection_withConnection_of_ne {n : Network} {c : Connection} {id : Id} (h : id ≠ c.id) :
    (n.withConnection c).connection id = n.connection id := by
  unfold connection
  rw [find_withConnection]
  cases hfind : n.connections.find? (·.id = id) with
  | none => rfl
  | some d =>
    have hmatch : d.id = id := by simpa using List.find?_some hfind
    rw [Option.map_some, if_neg (by rw [hmatch]; exact h)]

theorem connection_append_of_ne {n : Network} {c : Connection} {id : Id} (h : id ≠ c.id) :
    ({ n with connections := n.connections ++ [c] } : Network).connection id = n.connection id := by
  unfold connection
  rw [List.find?_append, List.find?_singleton, if_neg (by simpa using Ne.symm h), Option.or_none]

theorem connection_append_self {n : Network} {c : Connection} (h : c.id ∉ n.dialled) :
    ({ n with connections := n.connections ++ [c] } : Network).connection c.id = c := by
  have hnone : n.connections.find? (·.id = c.id) = none := by
    rw [List.find?_eq_none]
    intro d hd hid
    exact h (List.mem_map.mpr ⟨d, hd, of_decide_eq_true hid⟩)
  unfold connection
  rw [List.find?_append, hnone, Option.none_or, List.find?_singleton, if_pos (by simp),
    Option.getD_some]

end Network

/-! ## The parts of a pool of sessions -/

namespace Shelf

theorem take_eq_some_iff {s shelf : Shelf} {id : Id} :
    s.take = .ok (some id, shelf) ↔
      s.closed = false ∧ s.idle = shelf.idle ++ [id] ∧ shelf.closed = false := by
  obtain ⟨idle, closed⟩ := s
  obtain ⟨left, closed'⟩ := shelf
  unfold take
  cases closed with
  | true => simp
  | false =>
    rcases List.eq_nil_or_concat idle with rfl | ⟨front, last, rfl⟩
    · simp
    · grind

theorem take_eq_none_iff {s shelf : Shelf} :
    s.take = .ok (none, shelf) ↔ s.closed = false ∧ s.idle = [] ∧ shelf = s := by
  unfold take
  cases hclosed : s.closed with
  | true => simp
  | false =>
    cases hlast : s.idle.getLast? with
    | none => simp [List.getLast?_eq_none_iff.mp hlast, eq_comm]
    | some id =>
      have hsome : s.idle ≠ [] := fun hnil => by simp [hnil] at hlast
      simp [hsome]

variable {s shelf : Shelf} {limit : Value} {broken : Bool} {id : Id}

theorem offer_eq_true_iff :
    s.offer limit broken id = .ok (true, shelf) ↔
      s.closed = false ∧ broken = false ∧ s.hasRoom limit = .ok true ∧
        shelf = { s with idle := s.idle ++ [id] } := by
  unfold offer
  cases hclosed : s.closed <;> cases broken <;> rcases hroom : s.hasRoom limit with _ | _ | _ <;>
    simp [bind, Except.bind, pure, Except.pure, eq_comm]

theorem offer_eq_false_iff :
    s.offer limit broken id = .ok (false, shelf) ↔
      (s.closed = true ∨ broken = true ∨ s.hasRoom limit = .ok false) ∧ shelf = s := by
  unfold offer
  cases hclosed : s.closed <;> cases broken <;> rcases hroom : s.hasRoom limit with _ | _ | _ <;>
    simp [bind, Except.bind, pure, Except.pure, eq_comm]

theorem offer_eq_error_iff {failure : Failure} :
    s.offer limit broken id = .error failure ↔
      s.closed = false ∧ broken = false ∧ s.hasRoom limit = .error failure := by
  unfold offer
  cases hclosed : s.closed <;> cases broken <;> rcases hroom : s.hasRoom limit with _ | _ | _ <;>
    simp [bind, Except.bind, pure, Except.pure]

theorem hasRoom_integer {limit : Value} {n : Int} (s : Shelf) (h : limit.integer? = some n) :
    s.hasRoom limit = .ok ((s.idle.length : Int) < n) := by
  unfold hasRoom
  split
  · next n' hn' =>
    rw [hn'] at h
    cases h
    rfl
  · next hnone =>
    rw [hnone] at h
    cases h
  · next hnone =>
    rw [hnone] at h
    cases h

end Shelf

/-! ## Setting up and ending sessions -/

theorem mem_runSteps (steps : List (Action × Option Failure)) :
    ∀ a ∈ (runSteps steps).1, a ∈ steps.map Prod.fst := by
  induction steps with
  | nil => simp [runSteps]
  | cons step steps ih =>
    obtain ⟨action, failure?⟩ := step
    intro a ha
    rw [List.map_cons, List.mem_cons]
    cases failure? with
    | some failure => exact .inl (List.mem_singleton.mp ha)
    | none => exact (List.mem_cons.mp ha).imp_right (ih a)

theorem mem_dialSteps {r : Remote} {s : Script} {a : Action} (h : a ∈ (dialSteps r s).map Prod.fst) :
    a ≠ .quit ∧ a.control? = none := by
  unfold dialSteps at h
  cases hsecure : wantsSecurity r with
  | true =>
    simp only [hsecure, if_true, List.map_append, List.map_cons, List.map_nil, List.mem_append,
      List.mem_singleton] at h
    rcases h with ((rfl | rfl) | rfl) | rfl <;> exact ⟨nofun, rfl⟩
  | false =>
    simp only [hsecure, Bool.false_eq_true, if_false, List.map_append, List.map_cons, List.map_nil,
      List.mem_append, List.mem_singleton, List.append_nil] at h
    rcases h with rfl | rfl <;> exact ⟨nofun, rfl⟩

/-- Setting up a session leaves its control channel alone, and gives its connection or a failure. -/
theorem dial_spec (r : Remote) (id : Id) (s : Script) :
    (dial r id s).2.Aside id ∧
      ((dial r id s).1 = .ok (dialled r id s) ∨ ∃ failure, (dial r id s).1 = .error failure) := by
  have hsteps : ∀ a ∈ (runSteps (dialSteps r s)).1, a ≠ .quit ∧ a.control? = none :=
    fun a ha => mem_dialSteps (mem_runSteps _ a ha)
  have haside : ∀ (actions : List Action) (notes : List String),
      (∀ a ∈ actions, a ≠ .quit ∧ a.control? = none) →
      Trace.Aside id ⟨(Action.create (wantsSecurity r) :: actions).map fun a => ⟨id, a⟩, notes⟩ := by
    intro actions notes hactions e he
    obtain ⟨a, ha, rfl⟩ := List.mem_map.mp he
    rcases List.mem_cons.mp ha with rfl | ha
    · exact ⟨⟨rfl, nofun⟩, rfl⟩
    · exact ⟨⟨rfl, (hactions a ha).1⟩, (hactions a ha).2⟩
  have hlast : ∀ last : Action, last ≠ .quit → last.control? = none →
      ∀ a ∈ (runSteps (dialSteps r s)).1 ++ [last], a ≠ .quit ∧ a.control? = none := by
    intro last hquit hcontrol a ha
    rcases List.mem_append.mp ha with ha | ha
    · exact hsteps a ha
    · rw [List.mem_singleton.mp ha]
      exact ⟨hquit, hcontrol⟩
  unfold dial
  cases hfailure : (runSteps (dialSteps r s)).2 with
  | none =>
    simp only [hfailure]
    exact ⟨haside _ _ (hlast (.passive true) nofun rfl), .inl trivial⟩
  | some failure =>
    cases hreported : dialFailure? r.host failure with
    | none =>
      simp only [hfailure, hreported]
      exact ⟨haside _ _ hsteps, .inr ⟨_, rfl⟩⟩
    | some reported =>
      simp only [hfailure, hreported]
      exact ⟨haside _ _ (hlast .cutOff nofun rfl), .inr ⟨_, rfl⟩⟩

/-- Ending a session is one leave taken. It fails only with a failure that does not cut it off. -/
theorem hangUp_spec {c : Connection} {info : SessionInfo} (h : c.carrier = .session info) :
    (∀ e ∈ (hangUp c).2.events, e.connection = c.id ∧ e.action.control? = none) ∧
      (∀ id, partings (hangUp c).2 id = [c.id].count id) ∧
      ((∀ failure, info.quitting = some failure → cutsOff failure = true) →
        (hangUp c).1 = .ok ()) := by
  have hparts : ∀ id, [Event.mk c.id .quit].countP (partsFrom id) = [c.id].count id := by
    intro id
    simp [partsFrom, List.count_singleton]
  unfold hangUp
  rw [h]
  dsimp only
  cases hquitting : info.quitting with
  | none => exact ⟨by simp [Connection.event, Action.control?], hparts, fun _ => rfl⟩
  | some failure =>
    dsimp only
    split
    case isTrue =>
      refine ⟨by simp [Connection.event, Action.control?], fun id => ?_, fun _ => rfl⟩
      rw [← hparts id]
      rfl
    case isFalse hfails =>
      exact ⟨by simp [Connection.event, Action.control?], hparts,
        fun hprovided => absurd (hprovided failure rfl) hfails⟩

namespace SessionPool

/-- The script of the next session. -/
def nextScript (p : SessionPool) : Script := p.scripts.getD p.made Script.refused

/-- Setting up the next session adds its connection. -/
theorem dialNext_ok {p p' : SessionPool} {id : Id} (h : p.dialNext = (.ok id, p')) :
    id = p.made ∧ ∃ t : Trace, t.Aside p.made ∧ p' = { p with
      made := p.made + 1
      network := ⟨p.network.connections ++ [Pool.dialled p.remote p.made p.nextScript],
        p.network.trace ++ t⟩ } := by
  obtain ⟨haside, hresult⟩ := dial_spec p.remote p.made p.nextScript
  rcases hdial : dial p.remote p.made p.nextScript with ⟨result, t⟩
  rw [hdial] at haside hresult
  unfold nextScript at hdial
  rcases hresult with hok | ⟨failure, herror⟩
  · obtain rfl : result = _ := hok
    simp only [dialNext, hdial] at h
    cases h
    exact ⟨rfl, t, haside, rfl⟩
  · obtain rfl : result = _ := herror
    simp only [dialNext, hdial] at h
    cases h

theorem dialNext_error {p p' : SessionPool} {failure : Failure}
    (h : p.dialNext = (.error failure, p')) :
    ∃ t : Trace, t.Aside p.made ∧
      p' = { p with made := p.made + 1, network := p.network.seen t } := by
  obtain ⟨haside, hresult⟩ := dial_spec p.remote p.made p.nextScript
  rcases hdial : dial p.remote p.made p.nextScript with ⟨result, t⟩
  rw [hdial] at haside hresult
  unfold nextScript at hdial
  rcases hresult with hok | ⟨failure', herror⟩
  · obtain rfl : result = _ := hok
    simp only [dialNext, hdial] at h
    cases h
  · obtain rfl : result = _ := herror
    simp only [dialNext, hdial] at h
    cases h
    exact ⟨t, haside, rfl⟩

theorem closeConnection_network {p p' : SessionPool} {id : Id} {result : Except Failure Unit}
    (h : p.closeConnection id = (result, p')) :
    p' = { p with network := p.network.seen (hangUp (p.network.connection id)).2 } :=
  (congrArg Prod.snd h).symm

theorem closeConnection_spec (p : SessionPool) {id : Id} {info : SessionInfo}
    (h : (p.network.connection id).carrier = .session info) :
    ∃ (result : Except Failure Unit) (t : Trace),
      p.closeConnection id = (result, { p with network := p.network.seen t }) ∧
        (∀ e ∈ t.events, e.connection = id ∧ e.action.control? = none) ∧
        (∀ id', partings t id' = [id].count id') ∧
        ((∀ failure, info.quitting = some failure → cutsOff failure = true) → result = .ok ()) := by
  obtain ⟨hevents, hparts, hresult⟩ := hangUp_spec h
  rw [Network.connection_id] at hevents hparts
  exact ⟨_, _, rfl, hevents, hparts, hresult⟩

theorem shelf_closeAll (ids : List Id) (p : SessionPool) : (closeAll ids p).2.shelf = p.shelf := by
  induction ids generalizing p with
  | nil => rfl
  | cons id ids ih =>
    rw [closeAll]
    rcases hclose : p.closeConnection id with ⟨failure | _, p'⟩
    · rw [closeConnection_network hclose]
    · exact (ih p').trans (by rw [closeConnection_network hclose])

theorem shelf_close (p : SessionPool) : p.close.2.shelf = { idle := [], closed := true } :=
  shelf_closeAll _ _

theorem converse_eq {α : Type} (id : Id) (d : Dialogue α) (p : SessionPool) :
    Pool.converse id d p =
      let h := Holding.run d { connection := p.network.connection id }
      (h.1, { p with network := (p.network.withConnection h.2.connection).seen h.2.trace }) := rfl

/-- A dialogue on a connection is seen on that connection only, and breaks it when a turn does. -/
theorem converse_spec {α : Type} (id : Id) (d : Dialogue α) (p : SessionPool) :
    ∃ (c : Connection) (t : Trace),
      (Pool.converse id d p).2 = { p with network := (p.network.withConnection c).seen t } ∧
        c.id = id ∧ c.carrier = (p.network.connection id).carrier ∧ t.On id ∧
        t.control = (Holding.turns d { connection := p.network.connection id }).flatMap Turn.control ∧
        c.broken = ((p.network.connection id).broken ||
          (Holding.turns d { connection := p.network.connection id }).any Turn.breaks) ∧
        ((p.network.connection id).Orderly → c.Orderly ∧
          ∀ t ∈ Holding.turns d { connection := p.network.connection id }, t.Orderly) := by
  have hadvances := Holding.advances_run d _ (Holding.tied_new (p.network.connection id))
  obtain ⟨t, ht, hon, hcontrol⟩ := hadvances.traced
  rw [Network.connection_id] at hon
  have htrace : (Holding.run d { connection := p.network.connection id }).2.trace = t := ht
  refine ⟨_, t, by rw [converse_eq, ← htrace], hadvances.id_eq.trans (p.network.connection_id id),
    hadvances.carrier_eq, hon, hcontrol, hadvances.broken_eq, fun ho => ?_⟩
  obtain ⟨hleft, hturns⟩ := hadvances.orderly ⟨ho, by simp⟩
  exact ⟨hleft.connection, hturns⟩

theorem withConnection_eq {α : Type} (d : Dialogue α) (p : SessionPool) :
    (Pool.withConnection d p).2 =
      match p.acquire.1 with
      | .ok id => ((Pool.converse id d p.acquire.2).2.release id).2
      | .error _ => p.acquire.2 := by
  have hacquire : Pool.acquire p = p.acquire := rfl
  unfold Pool.withConnection Pool.bracket
  rw [hacquire]
  rcases p.acquire with ⟨failure | id, p'⟩ <;> rfl

theorem perform_eq (op : Operation) (p : SessionPool) :
    (Pool.perform op p).2 =
      match (Pool.withConnection op.dialogue p).1 with
      | .error _ => (Pool.withConnection op.dialogue p).2
      | .ok told =>
        let q := (Pool.withConnection op.dialogue p).2
        { q with network := q.network.seen ⟨[], told.notes⟩ } := by
  unfold Pool.perform
  rcases Pool.withConnection op.dialogue p with ⟨failure | told, q⟩ <;> rfl

end SessionPool
end FileTransfer.Pool
