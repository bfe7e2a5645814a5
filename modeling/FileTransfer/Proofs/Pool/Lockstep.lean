import FileTransfer.Proofs.Pool.Custody

/-!
# Connections that are handed on

As long as failures are of the classes provided for, a connection that a pool keeps owes no reply to
anyone: what passed on its control channel are complete exchanges, so the next line to come answers
the next command.

* `Session.Trace.controlOf`: what passed on the control channel of one connection.
* `Script.Orderly`: the failures that are provided for.
* `InStep`: a pool whose connections are broken or owe nothing; `InStep.perform`.
* `Turn.Spoils`: what makes an operation break its connection.
* `lockstep`: every connection kept is in step, and an operation breaks its connection only if it is
  spoilt.
-/

namespace FileTransfer
open FileTransfer.Session FileTransfer.Settings FileTransfer.Reply
set_option autoImplicit false

/-! ## The control channel of one connection -/

namespace Session.Trace

/-- What passed on the control channel of one connection. -/
def controlOf (t : Trace) (id : Id) : List Control :=
  t.events.filterMap fun e => if e.connection = id then e.action.control? else none

theorem controlOf_append (a b : Trace) (id : Id) :
    (a ++ b).controlOf id = a.controlOf id ++ b.controlOf id := List.filterMap_append

theorem On.controlOf_self {t : Trace} {id : Id} (h : t.On id) : t.controlOf id = t.control := by
  refine List.filterMap_congr fun e he => ?_
  rw [if_pos (h e he).1]

theorem On.controlOf_of_ne {t : Trace} {id on : Id} (h : t.On on) (hne : id ≠ on) :
    t.controlOf id = [] := by
  refine List.filterMap_eq_nil_iff.mpr fun e he => ?_
  rw [if_neg (by rw [(h e he).1]; exact hne.symm)]

theorem controlOf_eq_nil {t : Trace} (h : ∀ e ∈ t.events, e.action.control? = none) (id : Id) :
    t.controlOf id = [] := by
  refine List.filterMap_eq_nil_iff.mpr fun e he => ?_
  rw [h e he, ite_self]

end Session.Trace

namespace Pool

/-- What passed on the control channel of a connection since it was set up. -/
def Network.control (n : Network) (id : Id) : List Control := n.trace.controlOf id

theorem control_seen (n : Network) (t : Trace) (id : Id) :
    (n.seen t).control id = n.control id ++ t.controlOf id := n.trace.controlOf_append t id

end Pool

/-- The failures laid down for a session are of the classes provided for. -/
structure Session.Script.Orderly (s : Script) : Prop where
  replies : ∀ failure, .error failure ∈ s.replies →
    failure.isFault (fun f => f.isOutage || f.isSession) = true
  sends : ∀ failure, some failure ∈ s.sends → failure.isFault Fault.isOutage = true
  transfers : ∀ t ∈ s.transfers, t.Orderly

namespace Pool

theorem orderly_refused : Script.refused.Orderly := ⟨by simp [Script.refused], by simp [Script.refused],
  by simp [Script.refused]⟩

/-! ## Pools in step -/

/-- The connections of a pool are broken or owe no reply, and those to come have done nothing. -/
structure InStep (p : SessionPool) : Prop where
  scripts : ∀ s ∈ p.scripts, s.Orderly
  orderly : ∀ c ∈ p.network.connections, c.Orderly
  settled : ∀ c ∈ p.network.connections, c.broken = true ∨ Settled (p.network.control c.id)
  silent : ∀ id, p.made ≤ id → p.network.control id = []

namespace InStep
variable {p : SessionPool}

theorem fresh {r : Remote} {scripts : List Script} (h : ∀ s ∈ scripts, s.Orderly) :
    InStep { remote := r, scripts } :=
  ⟨h, by simp, by simp, fun _ _ => rfl⟩

theorem shelf (h : InStep p) (shelf : Shelf) : InStep { p with shelf } :=
  ⟨h.scripts, h.orderly, h.settled, h.silent⟩

/-- What passes on no control channel changes nothing. -/
theorem seen (h : InStep p) {t : Trace} (ht : ∀ e ∈ t.events, e.action.control? = none) :
    InStep { p with network := p.network.seen t } := by
  have hsame : ∀ id, (p.network.seen t).control id = p.network.control id := by
    intro id
    rw [control_seen, Trace.controlOf_eq_nil ht, List.append_nil]
  refine ⟨h.scripts, h.orderly, fun c hc => ?_, fun id hid => ?_⟩
  · dsimp only
    rw [hsame]
    exact h.settled c hc
  · exact (hsame id).trans (h.silent id hid)

theorem made (h : InStep p) : InStep { p with made := p.made + 1 } :=
  ⟨h.scripts, h.orderly, h.settled, fun id hid => h.silent id (Nat.le_of_succ_le hid)⟩

theorem dialNext (h : InStep p) : InStep p.dialNext.2 := by
  rcases hdial : p.dialNext with ⟨failure | id, p'⟩
  · obtain ⟨t, ht, rfl⟩ := SessionPool.dialNext_error hdial
    exact (h.seen fun e he => (ht e he).2).made
  · obtain ⟨-, t, ht, rfl⟩ := SessionPool.dialNext_ok hdial
    have hseen := h.seen fun e he => (ht e he).2
    have hscript : p.nextScript.Orderly := by
      unfold SessionPool.nextScript
      rw [List.getD_eq_getElem?_getD]
      cases hget : p.scripts[p.made]? with
      | none => exact orderly_refused
      | some s => exact h.scripts s (List.mem_of_getElem? hget)
    refine ⟨h.scripts, fun c hc => ?_, fun c hc => ?_, hseen.made.silent⟩
    · rcases List.mem_append.mp hc with hc | hc
      · exact h.orderly c hc
      · rw [List.mem_singleton.mp hc]
        exact ⟨hscript.replies, hscript.sends, hscript.transfers⟩
    · rcases List.mem_append.mp hc with hc | hc
      · exact hseen.settled c hc
      · refine .inr ?_
        have hnothing : (p.network.seen t).control p.made = [] := hseen.silent p.made (Nat.le_refl _)
        rw [List.mem_singleton.mp hc]
        change Settled ((p.network.seen t).control p.made)
        rw [hnothing]
        exact .nil

theorem acquire (h : InStep p) : InStep p.acquire.2 := by
  unfold SessionPool.acquire
  cases p.shelf.take with
  | error failure => exact h
  | ok taken =>
    obtain ⟨_ | id, shelf⟩ := taken
    · exact (h.shelf shelf).dialNext
    · exact h.shelf shelf

theorem closeConnection (h : InStep p) (hs : p.Sound) {id : Id} (hid : id ∈ p.network.dialled) :
    InStep (p.closeConnection id).2 := by
  obtain ⟨info, hinfo⟩ := hs.session _ (Network.connection_mem hid)
  obtain ⟨result, t, hclose, ht, -⟩ := p.closeConnection_spec hinfo
  rw [hclose]
  exact h.seen fun e he => (ht e he).2

theorem release (h : InStep p) (hs : p.Sound) {id : Id} (hid : id ∈ p.network.dialled) :
    InStep (p.release id).2 := by
  unfold SessionPool.release
  split
  case h_1 => exact h
  case h_2 shelf _ => exact h.shelf shelf
  case h_3 shelf _ =>
    exact (h.shelf shelf).closeConnection ⟨hs.distinct, hs.made, hs.session⟩ hid

/-- A dialogue that settles keeps its pool in step: it breaks its connection, or leaves it owing
nothing. -/
theorem converse {α : Type} (h : InStep p) (hs : p.Sound) {id : Id} (hid : id ∈ p.network.dialled)
    {d : Dialogue α} (hd : d.Settles) : InStep (Pool.converse id d p).2 := by
  obtain ⟨c, t, hconverse, rfl, hcarrier, hon, hcontrol, hbroken, horderly⟩ :=
    SessionPool.converse_spec id d p
  have hmem := Network.connection_mem hid
  obtain ⟨horderly', hturns⟩ := horderly (h.orderly _ hmem)
  have hcourse := Holding.course_turns d { connection := p.network.connection c.id }
  have hself : ((p.network.withConnection c).seen t).control c.id =
      p.network.control c.id ++ t.control := by
    rw [control_seen, hon.controlOf_self]
    rfl
  have hother : ∀ id, id ≠ c.id →
      ((p.network.withConnection c).seen t).control id = p.network.control id := by
    intro id hne
    rw [control_seen, hon.controlOf_of_ne hne, List.append_nil]
    rfl
  rw [hconverse]
  -- Only the connection that is held changes, and only its own control channel is heard.
  refine ⟨h.scripts, fun e he => ?_, fun e he => ?_, fun id' hid' => ?_⟩
  · obtain ⟨f, hf, rfl⟩ := List.mem_map.mp he
    split
    · exact horderly'
    · exact h.orderly f hf
  · obtain ⟨f, hf, rfl⟩ := List.mem_map.mp he
    split
    case isFalse hne =>
      rw [hother f.id hne]
      exact h.settled f hf
    case isTrue =>
      cases hb : c.broken with
      | true => exact .inl rfl
      | false =>
        rw [hb] at hbroken
        obtain ⟨hwas, hnone⟩ := Bool.or_eq_false_iff.mp hbroken.symm
        obtain hbroken' | hsettled := h.settled _ hmem
        · rw [hwas] at hbroken'
          cases hbroken'
        obtain ⟨turn, hturn, hbreaks⟩ | hmore := hd _ _ hcourse hturns
        · exact absurd hbreaks (List.any_eq_false.mp hnone turn hturn)
        · rw [Network.connection_id] at hsettled
          refine .inr ?_
          rw [hself, hcontrol]
          exact hsettled.append hmore
  · have hne : id' ≠ c.id := by
      rintro rfl
      exact Nat.lt_irrefl _ (Nat.lt_of_lt_of_le (hs.made _ hid) hid')
    exact (hother id' hne).trans (h.silent id' hid')

end InStep

/-! ## Operations -/

/-- What a pool that nobody uses is like. -/
abbrev Quiet (p : SessionPool) : Prop := Crowd.Custody ⟨p, [.away]⟩

theorem custody_of_moves {p p' : SessionPool} {c c' : Caller} (h : Crowd.Custody ⟨p, [c]⟩)
    (hmoves : Relation.ReflTransGen Move (p, c) (p', c')) : Crowd.Custody ⟨p', [c']⟩ :=
  Crowd.custody_of_reaches h (Crowd.reaches_of_moves [] [] hmoves)

/-- A connection that is held was set up, and is in no other place. -/
theorem custody_holding {p : SessionPool} {id : Id} (h : Crowd.Custody ⟨p, [.holding id]⟩) :
    id ∈ p.network.dialled ∧ id ∉ p.shelf.idle ∧ p.network.parted id = 0 := by
  have hplaces : Crowd.places ⟨p, [.holding id]⟩ id =
      1 + p.shelf.idle.count id + p.network.parted id := by
    simp [Crowd.places, Crowd.held, Crowd.due, Caller.held, Caller.due]
  have hone := h.places_le_one id
  rw [hplaces] at hone
  refine ⟨h.dialled_of_place (by rw [hplaces]; omega), fun hidle => ?_, by omega⟩
  have hcount := List.count_pos_iff.mpr hidle
  omega

theorem custody_acquire {p p' : SessionPool} {id : Id} (h : Quiet p)
    (hacquire : p.acquire = (.ok id, p')) :
    Crowd.Custody ⟨p', [.holding id]⟩ := by
  obtain ⟨id', hid, hmoves⟩ | ⟨failure, hfailure, -⟩ := acquire_moves p
  · rw [hacquire] at hid hmoves
    cases hid
    exact custody_of_moves h hmoves
  · rw [hacquire] at hfailure
    cases hfailure

theorem Quiet.perform {p : SessionPool} (h : Quiet p) (op : Operation) : Quiet (Pool.perform op p).2 :=
  custody_of_moves h (perform_moves op p)

/-- An operation keeps its pool in step, whatever comes of it. -/
theorem InStep.perform {p : SessionPool} (h : InStep p) (hq : Quiet p) (op : Operation) :
    InStep (Pool.perform op p).2 := by
  have hheld : InStep (Pool.withConnection op.dialogue p).2 := by
    rw [SessionPool.withConnection_eq]
    rcases hacquire : p.acquire with ⟨failure | id, p'⟩
    · have hinstep := h.acquire
      rw [hacquire] at hinstep
      exact hinstep
    · have hinstep := h.acquire
      rw [hacquire] at hinstep
      have hcustody := custody_acquire hq hacquire
      have hcustody' := custody_of_moves hcustody (.single (converse_move id op.dialogue p'))
      have hused := hinstep.converse hcustody.sound (custody_holding hcustody).1
        (Dialogue.settles_operation op)
      exact hused.release hcustody'.sound (custody_holding hcustody').1
  rw [SessionPool.perform_eq]
  split
  · exact hheld
  · exact hheld.seen (by simp)

theorem Quiet.performAll {p : SessionPool} (h : Quiet p) (ops : List Operation) :
    Quiet (performAll ops p) :=
  custody_of_moves h (performAll_moves ops p)

theorem InStep.performAll {p : SessionPool} (h : InStep p) (hq : Quiet p) (ops : List Operation) :
    InStep (performAll ops p) := by
  induction ops generalizing p with
  | nil => exact h
  | cons op ops ih => exact ih (h.perform hq op) (hq.perform op)

/-! ## What an operation leaves of its connection -/

theorem connection_release (p : SessionPool) (id id' : Id) :
    (p.release id).2.network.connection id' = p.network.connection id' := by
  unfold SessionPool.release
  split <;> rfl

/-- An operation that was given a connection uses it and gives it back, and may leave notes. -/
theorem perform_acquired {p p' : SessionPool} {id : Id} (hacquire : p.acquire = (.ok id, p'))
    (op : Operation) :
    ∃ notes : List String,
      (Pool.perform op p).2 =
        { ((Pool.converse id op.dialogue p').2.release id).2 with
          network := ((Pool.converse id op.dialogue p').2.release id).2.network.seen ⟨[], notes⟩ } := by
  have hheld : (Pool.withConnection op.dialogue p).2 =
      ((Pool.converse id op.dialogue p').2.release id).2 := by
    rw [SessionPool.withConnection_eq, hacquire]
  rw [SessionPool.perform_eq, hheld]
  split
  · refine ⟨[], ?_⟩
    rw [Network.seen, show (⟨[], []⟩ : Trace) = {} from rfl, Trace.append_empty]
  · exact ⟨_, rfl⟩

theorem connection_perform {p p' : SessionPool} {id : Id} (hacquire : p.acquire = (.ok id, p'))
    (op : Operation) :
    (Pool.perform op p).2.network.connection id =
      (Pool.converse id op.dialogue p').2.network.connection id := by
  obtain ⟨notes, hperform⟩ := perform_acquired hacquire op
  rw [hperform]
  exact connection_release _ id id

/-- The turns that an operation takes on a connection it was given. -/
def turnsOf (op : Operation) (c : Connection) : List Turn :=
  Holding.turns op.dialogue { connection := c }

/-- An operation breaks its connection in its turns. -/
theorem broken_perform {p p' : SessionPool} {id : Id} (hacquire : p.acquire = (.ok id, p'))
    (hid : id ∈ p'.network.dialled) (op : Operation) :
    ((Pool.perform op p).2.network.connection id).broken =
      ((p'.network.connection id).broken ||
        (turnsOf op (p'.network.connection id)).any Turn.breaks) := by
  obtain ⟨c, t, hconverse, rfl, -, -, -, hbroken, -⟩ := SessionPool.converse_spec id op.dialogue p'
  rw [connection_perform hacquire, hconverse]
  exact (congrArg Connection.broken (Network.connection_withConnection_self hid)).trans hbroken

/-- Whatever operations are carried out one after the other, what passed on the control channel of
each connection that the pool keeps are complete exchanges: each command line with one whole reply,
or with two when the server began to send a listing. An operation leaves its connection broken
exactly when it was broken before, or something spoilt one of its exchanges. -/
theorem lockstep {r : Remote} {scripts : List Script} (hscripts : ∀ s ∈ scripts, s.Orderly)
    (ops : List Operation) {p : SessionPool} (hp : performAll ops { remote := r, scripts } = p) :
    (∀ id ∈ p.shelf.idle, ∃ xs : List Exchange,
        (∀ x ∈ xs, x.Complete) ∧ p.network.control id = xs.flatMap Exchange.events) ∧
      ∀ (op : Operation) (id : Id) (p' : SessionPool), p.acquire = (.ok id, p') →
        (((Pool.perform op p).2.network.connection id).broken = true ↔
          (p'.network.connection id).broken = true ∨
            ∃ t ∈ turnsOf op (p'.network.connection id), t.Spoils) := by
  have hfresh : Quiet { remote := r, scripts } := Crowd.custody_fresh r scripts 1
  have hquiet := hfresh.performAll ops
  have hinstep := (InStep.fresh hscripts).performAll hfresh ops
  rw [hp] at hinstep hquiet
  refine ⟨fun id hid => ?_, fun op id p' hacquire => ?_⟩
  · have hdialled : id ∈ p.network.dialled := by
      refine hquiet.dialled_of_place ?_
      have hcount := List.count_pos_iff.mpr hid
      rw [Crowd.places]
      dsimp only
      omega
    obtain hbroken | hsettled := hinstep.settled _ (Network.connection_mem hdialled)
    · rw [hquiet.unbroken id hid] at hbroken
      cases hbroken
    · rwa [Network.connection_id] at hsettled
  · have hid := (custody_holding (custody_acquire hquiet hacquire)).1
    have hinstep' := hinstep.acquire
    rw [hacquire] at hinstep'
    obtain ⟨c, t, -, -, -, -, -, -, horderly⟩ := SessionPool.converse_spec id op.dialogue p'
    have hturns := (horderly (hinstep'.orderly _ (Network.connection_mem hid))).2
    rw [broken_perform hacquire hid, Bool.or_eq_true, List.any_eq_true]
    refine or_congr_right (exists_congr fun t => and_congr_right fun ht => ?_)
    exact breaks_iff_spoils (hturns t ht)

/-- A pool of sessions with one server, of which the first goes as laid down. -/
def serving (s : Script) : SessionPool where
  remote := { name := .text "files", type := .text "ftp", host := .text "server" }
  scripts := [s]

/-- A server that answers three command lines and falls silent in the middle of its next reply. -/
def fallingSilent : Script where
  replies := [.ok "350 go on", .ok "250 done", .ok "150-here", .ok "150 it comes", .ok "226 end",
    .ok "250-and so"]

/-- A connection serves two operations and is kept. The next operation breaks it. -/
theorem lockstep_falling_silent :
    ∃ p : SessionPool,
      performAll [.rename (.plain "a") (.plain "b"), .readDirectory (.plain "c")]
        (serving fallingSilent) = p ∧
      p.shelf.idle = [0] ∧
      (∃ xs : List Exchange, (∀ x ∈ xs, x.Complete) ∧
        p.network.control 0 = xs.flatMap Exchange.events) ∧
      ∃ t ∈ turnsOf (.delete (.plain "d")) (p.acquire.2.network.connection 0), t.Spoils := by
  have hscript : ∀ s ∈ [fallingSilent], s.Orderly := by
    intro s hs
    rw [List.mem_singleton.mp hs]
    exact ⟨by simp [fallingSilent], by simp [fallingSilent], by simp [fallingSilent]⟩
  obtain ⟨hsettled, hspoils⟩ := lockstep (r := (serving fallingSilent).remote) hscript
    [.rename (.plain "a") (.plain "b"), .readDirectory (.plain "c")] rfl
  have hidle : (performAll [.rename (.plain "a") (.plain "b"), .readDirectory (.plain "c")]
      (serving fallingSilent)).shelf.idle = [0] := by decide +kernel
  refine ⟨_, rfl, hidle, hsettled 0 (by decide +kernel), ?_⟩
  have hbroken := (hspoils (.delete (.plain "d")) 0 _ (Prod.ext (by decide +kernel) rfl)).mp
    (by decide +kernel)
  exact hbroken.resolve_left (by decide +kernel)

end Pool
end FileTransfer
