import FileTransfer.Proofs.Pool.Lockstep
import FileTransfer.Proofs.Pool.ReadDirectory

/-!
# How sessions end

A session ends with its leave. Where that fails it is cut off, but only for the failures that the pool
provides for; any other failure is passed on to whoever ends the session, and what is left to be done
after it is not done.

* `passedOn?`, `Ended`: the failures that are passed on, and when a session is over.
* `hangUp_eq`: what is done to end one session.
* `closeAll_append`: what is done to end one after the other.
* `closing`: what a pool that closes comes to, a connection that is not kept, and an operation.
* `closing_stranded`: a server whose last word is no reply.
-/

namespace FileTransfer
open FileTransfer.Session FileTransfer.Settings
set_option autoImplicit false

/-- The failure that a connection meets as it takes its leave. -/
def Session.Connection.quitting? (c : Connection) : Option Failure :=
  match c.carrier with
  | .direct => none
  | .session info => info.quitting

namespace Pool

/-! ## One session -/

def passedOn? (c : Connection) : Option Failure := c.quitting?.filter fun failure => !cutsOff failure

def farewell (c : Connection) : List Event :=
  c.event .quit :: if c.quitting?.any cutsOff then [c.event .cutOff] else []

/-- A session is over once it took its leave without a failure, or was cut off. -/
def Ended (c : Connection) (events : List Event) : Prop :=
  (c.quitting? = none ∧ c.event .quit ∈ events) ∨ c.event .cutOff ∈ events

theorem passedOn?_fault {c : Connection} {f : Fault} (h : c.quitting? = some (.fault f)) :
    passedOn? c = if f.isOutage || f.isRefusal then none else some (.fault f) := by
  have hcuts : cutsOff (.fault f) = (f.isOutage || f.isRefusal) := Bool.or_comm ..
  rw [passedOn?, h, Option.filter_some, hcuts]
  cases f.isOutage || f.isRefusal <;> rfl

theorem ended_farewell (c : Connection) : Ended c (farewell c) ↔ passedOn? c = none := by
  unfold Ended farewell passedOn?
  cases c.quitting? with
  | none => simp
  | some failure => cases hcuts : cutsOff failure <;> simp [hcuts, Connection.event]

theorem connection_of_mem_farewell {c : Connection} {e : Event} (h : e ∈ farewell c) :
    e.connection = c.id := by
  unfold farewell at h
  split at h
  · rcases List.mem_cons.mp h with rfl | h
    · rfl
    · rw [List.mem_singleton.mp h]
      rfl
  · rw [List.mem_singleton.mp h]
    rfl

theorem hangUp_eq {c : Connection} {info : SessionInfo} (h : c.carrier = .session info) :
    hangUp c = (outcome (passedOn? c), ⟨farewell c, []⟩) := by
  have hquitting : c.quitting? = info.quitting := by rw [Connection.quitting?, h]
  unfold hangUp passedOn? farewell
  rw [h, hquitting]
  dsimp only
  cases info.quitting with
  | none => rfl
  | some failure => cases hcuts : cutsOff failure <;> simp [hcuts, Option.filter_some, outcome]

/-! ## One after the other -/

namespace SessionPool
variable {p : SessionPool} {id : Id}

def farewells (p : SessionPool) (ids : List Id) : List Event :=
  ids.flatMap fun id => farewell (p.network.connection id)

/-- The pool once it was attempted to end sessions. -/
def ending (p : SessionPool) (ids : List Id) : SessionPool :=
  { p with network := p.network.seen ⟨p.farewells ids, []⟩ }

/-- Every session is ended in its own farewell or not at all. -/
theorem ended_farewells {ids : List Id} :
    Ended (p.network.connection id) (p.farewells ids) ↔
      id ∈ ids ∧ passedOn? (p.network.connection id) = none := by
  have hown : ∀ action, (p.network.connection id).event action ∈ p.farewells ids →
      id ∈ ids ∧ (p.network.connection id).event action ∈ farewell (p.network.connection id) := by
    intro action h
    obtain ⟨id', hid', he⟩ := List.mem_flatMap.mp h
    have hsame := connection_of_mem_farewell he
    rw [Network.connection_id, Connection.event, Network.connection_id] at hsame
    subst hsame
    exact ⟨hid', he⟩
  constructor
  · rintro (⟨hnone, h⟩ | h)
    · obtain ⟨hid, hquit⟩ := hown .quit h
      exact ⟨hid, (ended_farewell _).mp (.inl ⟨hnone, hquit⟩)⟩
    · obtain ⟨hid, hcut⟩ := hown .cutOff h
      exact ⟨hid, (ended_farewell _).mp (.inr hcut)⟩
  · rintro ⟨hid, hnone⟩
    rcases (ended_farewell _).mpr hnone with ⟨hwell, hquit⟩ | hcut
    · exact .inl ⟨hwell, List.mem_flatMap.mpr ⟨id, hid, hquit⟩⟩
    · exact .inr (List.mem_flatMap.mpr ⟨id, hid, hcut⟩)

/-- Neither the session whose failure is passed on nor one after it is ended. -/
theorem not_ended_of_some {before after : List Id} {failure : Failure} {id' : Id}
    (hnodup : (before ++ id :: after).Nodup)
    (hid : passedOn? (p.network.connection id) = some failure) (hid' : id' ∈ id :: after) :
    ¬ Ended (p.network.connection id') (p.farewells (before ++ [id])) := by
  intro hended
  obtain ⟨hmem, hnone⟩ := ended_farewells.mp hended
  obtain ⟨-, -, hapart⟩ := List.nodup_append.mp hnodup
  by_cases hsame : id' = id
  · rw [hsame, hid] at hnone
    cases hnone
  · have hearlier : id' ∈ before := by simpa [hsame] using hmem
    exact hapart id' hearlier id' hid' rfl

theorem ending_nil : p.ending [] = p := by
  rw [ending, show (⟨p.farewells [], []⟩ : Trace) = {} from rfl, Network.seen, Trace.append_empty]

theorem ending_ending (ids ids' : List Id) : (p.ending ids).ending ids' = p.ending (ids ++ ids') := by
  have hall : p.farewells (ids ++ ids') = p.farewells ids ++ p.farewells ids' := List.flatMap_append
  have htrace : p.network.trace ++ ⟨p.farewells ids, []⟩ ++ ⟨p.farewells ids', []⟩ =
      p.network.trace ++ (⟨p.farewells (ids ++ ids'), []⟩ : Trace) := by
    rw [Trace.append_assoc, hall]
    rfl
  rw [ending, ending, ending]
  exact congrArg (fun t => { p with network := { p.network with trace := t } }) htrace

theorem closeConnection_eq (hs : p.Sound) (hid : id ∈ p.network.dialled) :
    p.closeConnection id = (outcome (passedOn? (p.network.connection id)), p.ending [id]) := by
  obtain ⟨info, hinfo⟩ := hs.session _ (Network.connection_mem hid)
  rw [closeConnection, hangUp_eq hinfo, ending, farewells, List.flatMap_singleton]

theorem closeAll_append {before : List Id} (after : List Id) (hs : p.Sound)
    (hdialled : ∀ id ∈ before, id ∈ p.network.dialled)
    (hbefore : ∀ id ∈ before, passedOn? (p.network.connection id) = none) :
    closeAll (before ++ after) p = closeAll after (p.ending before) := by
  -- Only what was seen changes along the way, so each session is still to be ended as it was.
  induction before generalizing p with
  | nil => rw [ending_nil, List.nil_append]
  | cons id before ih =>
    have hclose := closeConnection_eq hs (hdialled id List.mem_cons_self)
    rw [hbefore id List.mem_cons_self] at hclose
    have hrest := ih (p := p.ending [id]) ⟨hs.distinct, hs.made, hs.session⟩
      (fun id hid => hdialled id (List.mem_cons_of_mem _ hid))
      (fun id hid => hbefore id (List.mem_cons_of_mem _ hid))
    rw [ending_ending] at hrest
    rw [List.cons_append, closeAll, hclose]
    exact hrest

theorem close_of_none (hs : p.Sound) (hdialled : ∀ id ∈ p.shelf.idle, id ∈ p.network.dialled)
    (hnone : ∀ id ∈ p.shelf.idle, passedOn? (p.network.connection id) = none) :
    p.close = (.ok (), { p.ending p.shelf.idle with shelf := { closed := true } }) := by
  have hclose := closeAll_append (p := { p with shelf := { closed := true } }) []
    ⟨hs.distinct, hs.made, hs.session⟩ hdialled hnone
  rw [List.append_nil] at hclose
  exact hclose

theorem close_of_some {before after : List Id} {failure : Failure} (hs : p.Sound)
    (hdialled : ∀ id ∈ p.shelf.idle, id ∈ p.network.dialled)
    (hidle : p.shelf.idle = before ++ id :: after)
    (hbefore : ∀ id' ∈ before, passedOn? (p.network.connection id') = none)
    (hid : passedOn? (p.network.connection id) = some failure) :
    p.close = (.error failure, { p.ending (before ++ [id]) with shelf := { closed := true } }) := by
  rw [hidle] at hdialled
  have hshut : Sound { p with shelf := { closed := true } } := ⟨hs.distinct, hs.made, hs.session⟩
  have hfirst := closeAll_append (id :: after) hshut
    (fun id' hid' => hdialled id' (List.mem_append_left _ hid')) hbefore
  have hlast : (ending { p with shelf := { closed := true } } before).closeConnection id =
      (outcome (passedOn? (p.network.connection id)),
        (ending { p with shelf := { closed := true } } before).ending [id]) :=
    closeConnection_eq ⟨hs.distinct, hs.made, hs.session⟩
      (hdialled id (List.mem_append_right _ List.mem_cons_self))
  rw [hid, ending_ending] at hlast
  have hclose : p.close = closeAll (before ++ id :: after) { p with shelf := { closed := true } } := by
    rw [← hidle]
    rfl
  rw [hclose, hfirst, closeAll, hlast]
  rfl

theorem release_eq_of_not_kept {shelf : Shelf} (hs : p.Sound) (hid : id ∈ p.network.dialled)
    (hoffer : p.shelf.offer p.remote.maxIdle (p.network.connection id).broken id =
      .ok (false, shelf)) :
    p.release id = (outcome (passedOn? (p.network.connection id)), p.ending [id]) := by
  obtain ⟨-, rfl⟩ := Shelf.offer_eq_false_iff.mp hoffer
  rw [release, hoffer]
  exact closeConnection_eq hs hid

end SessionPool

/-! ## Pools -/

theorem Crowd.Custody.quiet {s : Crowd} (h : s.Custody) : Quiet s.pool where
  sound := h.sound
  places_le := by
    intro id
    have hle := h.places_le id
    have hquiet : Crowd.places ⟨s.pool, [.away]⟩ id =
        s.pool.shelf.idle.count id + s.pool.network.parted id := by
      simp [Crowd.places, Crowd.held, Crowd.due, Caller.held, Caller.due]
    rw [Crowd.places] at hle
    rw [hquiet]
    dsimp only
    omega
  unbroken := h.unbroken
  shut := h.shut

theorem passedOn?_converse {α : Type} {q : SessionPool} {id : Id} (d : Dialogue α)
    (hid : id ∈ q.network.dialled) :
    passedOn? ((Pool.converse id d q).2.network.connection id) =
      passedOn? (q.network.connection id) := by
  obtain ⟨c, t, hconverse, rfl, hcarrier, -⟩ := SessionPool.converse_spec id d q
  have hsame : ((Pool.converse c.id d q).2.network.connection c.id) = c := by
    rw [hconverse]
    exact Network.connection_withConnection_self hid
  rw [hsame, passedOn?, passedOn?, Connection.quitting?, Connection.quitting?, hcarrier]

theorem perform_not_kept {p q : SessionPool} {id : Id} {shelf : Shelf} (h : Quiet p)
    (hacquire : p.acquire = (.ok id, q)) (op : Operation)
    (hoffer : (Pool.converse id op.dialogue q).2.shelf.offer q.remote.maxIdle
      ((Pool.converse id op.dialogue q).2.network.connection id).broken id = .ok (false, shelf)) :
    (Pool.perform op p).1 = unlessFails ((Pool.converse id op.dialogue q).1 >>= Told.answer)
      (outcome (passedOn? (q.network.connection id))) := by
  have hholding := custody_acquire h hacquire
  have hused := custody_of_moves hholding (.single (converse_move id op.dialogue q))
  have hrelease := SessionPool.release_eq_of_not_kept hused.sound (custody_holding hused).1 hoffer
  rw [passedOn?_converse op.dialogue (custody_holding hholding).1] at hrelease
  have hperform := perform_eq hacquire op (show _ = (Pool.converse id op.dialogue q).1 from rfl)
  rw [hperform]
  exact congrArg _ (congrArg Prod.fst hrelease)

/-- A failure to take leave that is an outage or a refusal is never passed on. When that is so for all
that a pool has on its shelf, it closes without a failure and every one of these sessions is ended.
Otherwise it closes with the first failure that is passed on; neither the session that failed so nor
those after it are ended, and they are no longer on the shelf. A connection that is not kept when it is
given back has its session ended likewise, and what an operation came to is lost to a failure that is
passed on, but to no other. -/
theorem closing {r : Remote} {scripts : List Script} {n : Nat} {s : Crowd}
    (hreach : Crowd.Reaches (Crowd.fresh r scripts n) s) :
    let p := s.pool
    let passed (id : Id) := passedOn? (p.network.connection id)
    let closed : Shelf := { closed := true }
    (∀ (c : Connection) f, c.quitting? = some (.fault f) →
      passedOn? c = if f.isOutage || f.isRefusal then none else some (.fault f)) ∧
    ((∀ id ∈ p.shelf.idle, passed id = none) →
      p.close = (.ok (), { p.ending p.shelf.idle with shelf := closed }) ∧
        ∀ id ∈ p.shelf.idle, Ended (p.network.connection id) (p.farewells p.shelf.idle)) ∧
    (∀ before id after failure, p.shelf.idle = before ++ id :: after →
      (∀ id' ∈ before, passed id' = none) → passed id = some failure →
      p.close = (.error failure, { p.ending (before ++ [id]) with shelf := closed }) ∧
        ∀ id' ∈ id :: after, ¬ Ended (p.network.connection id') (p.farewells (before ++ [id]))) ∧
    (∀ id ∈ p.network.dialled, ∀ shelf,
      p.shelf.offer p.remote.maxIdle (p.network.connection id).broken id = .ok (false, shelf) →
      p.release id = (outcome (passed id), p.ending [id])) ∧
    ∀ op id q, p.acquire = (.ok id, q) →
      let (told, left) := Pool.converse id op.dialogue q
      ∀ shelf, left.shelf.offer q.remote.maxIdle (left.network.connection id).broken id =
          .ok (false, shelf) →
        (Pool.perform op p).1 = match passedOn? (q.network.connection id) with
          | none => told >>= Told.answer
          | some failure => .error failure := by
  intro p passed closed
  have hcustody := Crowd.custody_of_reaches (Crowd.custody_fresh r scripts n) hreach
  have hs : p.Sound := hcustody.sound
  have hdialled : ∀ id ∈ p.shelf.idle, id ∈ p.network.dialled := fun id => hcustody.dialled_of_idle
  refine ⟨fun c f => passedOn?_fault, fun hnone => ⟨?_, fun id hid => ?_⟩, ?_,
    fun id hid shelf => SessionPool.release_eq_of_not_kept hs hid, fun op id q hacquire => ?_⟩
  · exact SessionPool.close_of_none hs hdialled hnone
  · exact SessionPool.ended_farewells.mpr ⟨hid, hnone id hid⟩
  · intro before id after failure hidle hbefore hid
    refine ⟨SessionPool.close_of_some hs hdialled hidle hbefore hid, fun id' => ?_⟩
    exact SessionPool.not_ended_of_some (hidle ▸ hcustody.nodup_idle) hid
  · intro shelf hoffer
    rw [perform_not_kept hcustody.quiet hacquire op hoffer]
    cases passedOn? (q.network.connection id) <;> rfl

/-- A pool that two callers use, the first with a session whose leave may fail. -/
def usedByTwo (quitting : Option Failure) : Crowd :=
  Crowd.fresh { name := .text "files", type := .text "ftp", host := .text "server" }
    [{ quitting }, {}] 2

theorem reaches_two_idle (quitting : Option Failure) :
    ∃ s, Crowd.Reaches (usedByTwo quitting) s ∧ s.pool.shelf.idle = [0, 1] ∧
      (s.pool.network.connection 0).quitting? = quitting ∧
      (s.pool.network.connection 1).quitting? = none := by
  have hmissed := Relation.ReflTransGen.single (Crowd.Step.move (p := (usedByTwo quitting).pool)
    [] [.away] (Move.missed rfl))
  have hmissed' := hmissed.tail (.move [.dialling] [] (Move.missed rfl))
  have hdialled := hmissed'.tail (.move [] [.dialling] (Move.dialled rfl))
  have hdialled' := hdialled.tail (.move [.holding 0] [] (Move.dialled rfl))
  have hkept := hdialled'.tail (.move [] [.holding 1] (Move.kept rfl))
  exact ⟨_, hkept.tail (.move [.away] [] (Move.kept rfl)), rfl, rfl, rfl⟩

theorem closing_two_idle :
    ∃ s, Crowd.Reaches (usedByTwo (some (.fault (.system .brokenPipe "gone")))) s ∧
      s.pool.close.1 = .ok () ∧
      ∀ id ∈ [0, 1], Ended (s.pool.network.connection id) (s.pool.farewells [0, 1]) := by
  obtain ⟨s, hreach, hidle, hfirst, hsecond⟩ :=
    reaches_two_idle (some (.fault (.system .brokenPipe "gone")))
  obtain ⟨hfault, hall, -⟩ := closing hreach
  have hnone : ∀ id ∈ s.pool.shelf.idle, passedOn? (s.pool.network.connection id) = none := by
    rw [hidle]
    intro id hid
    simp only [List.mem_cons, List.not_mem_nil, or_false] at hid
    rcases hid with rfl | rfl
    · exact hfault _ _ hfirst
    · rw [passedOn?, hsecond, Option.filter_none]
  obtain ⟨hclose, hended⟩ := hall hnone
  rw [hidle] at hended
  exact ⟨s, hreach, congrArg Prod.fst hclose, hended⟩

/-- A server whose last word is no reply. -/
def mumblingAtTheEnd : Script where
  replies := [.ok "250 done"]
  quitting := some (.fault (.session .malformed "bye"))

/-- Such a server keeps the sessions after its own from being ended, and takes the place of what an
operation came to. -/
theorem closing_stranded :
    (∃ s, Crowd.Reaches (usedByTwo mumblingAtTheEnd.quitting) s ∧ s.pool.shelf.idle = [0, 1] ∧
      s.pool.close.1 = .error (.fault (.session .malformed "bye")) ∧
      s.pool.close.2.shelf.idle = [] ∧
      s.pool.close.2.network = s.pool.network.seen ⟨[⟨0, .quit⟩], []⟩) ∧
    let unkept (script : Script) : SessionPool := { scripts := [script], remote :=
      { name := .text "files", type := .text "ftp", host := .text "server", maxIdle := .whole 0 } }
    (Pool.perform (.delete (.plain "a")) (unkept mumblingAtTheEnd)).1 =
        .error (.fault (.session .malformed "bye")) ∧
      (Pool.perform (.delete (.plain "a")) (unkept { mumblingAtTheEnd with quitting := none })).1 =
        .ok .nothing := by
  obtain ⟨s, hreach, hidle, hfirst, -⟩ := reaches_two_idle mumblingAtTheEnd.quitting
  have hcustody := Crowd.custody_of_reaches (Crowd.custody_fresh ..) hreach
  have hclose := SessionPool.close_of_some hcustody.sound (fun id => hcustody.dialled_of_idle)
    (show s.pool.shelf.idle = [] ++ 0 :: [1] from hidle) (by simp) (passedOn?_fault hfirst)
  have hevents : s.pool.farewells [0] = [⟨0, .quit⟩] := by
    simp [SessionPool.farewells, farewell, hfirst, Connection.event, Network.connection_id,
      mumblingAtTheEnd, cutsOff, Failure.isFault, Fault.isRefusal, Fault.isOutage]
  refine ⟨⟨s, hreach, hidle, by rw [hclose], by rw [hclose], ?_⟩, rfl, rfl⟩
  rw [hclose, ← hevents]
  rfl

end Pool
end FileTransfer
