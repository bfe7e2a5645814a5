import FileTransfer.Proofs.Pool.Alone
import FileTransfer.Proofs.Pool.CrewRun

/-!
# One use after another

A connection of a pool goes from one worker to the next, and each finds it as the one before left it.

* `Handed`: the uses of a connection follow one another, each beginning where the last one ended.
* `Crew.Apart`: what every step of a crew keeps, and `apart_run`.
* `stays_or_gains`: what becomes of the uses in a step.
-/

namespace FileTransfer.Pool
open FileTransfer.Session FileTransfer.Settings
set_option autoImplicit false

/-! ## One use after another -/

/-- The connection of a use as the operation leaves it. -/
def Use.left (u : Use) : Connection := (whole u.op u.given).2.connection

/-- What is left of a connection after its uses. -/
def lastLeft (c : Connection) (us : List Use) : Connection := us.foldl (fun _ u => u.left) c

/-- Each use is given the connection as the use before left it. -/
def Handed : Connection → List Use → Prop
  | _, [] => True
  | c, u :: us => u.given = c ∧ Handed u.left us

variable {c : Connection} {u : Use} {us : List Use}

theorem lastLeft_append : lastLeft c (us ++ [u]) = u.left := by
  rw [lastLeft, List.foldl_append]
  rfl

theorem handed_append : Handed c (us ++ [u]) ↔ Handed c us ∧ u.given = lastLeft c us := by
  induction us generalizing c with
  | nil => exact and_comm
  | cons v us ih =>
    rw [List.cons_append, Handed, Handed, ih, and_assoc]
    rfl

/-- However often a connection is handed on, it runs on the same session. -/
theorem Handed.carrier_eq (h : Handed c us) : ∀ u ∈ us, u.given.carrier = c.carrier := by
  induction us generalizing c with
  | nil => simp
  | cons v us ih =>
    obtain ⟨rfl, hlater⟩ := h
    obtain ⟨ts, hadvances⟩ := whole_advances v.op v.given
    intro u hu
    rcases List.mem_cons.mp hu with rfl | hu
    · rfl
    · exact (ih hlater u hu).trans hadvances.carrier_eq

/-- A connection as it is when its session has just been set up. -/
def firstState (r : Remote) (scripts : List Script) (id : Id) : Connection :=
  Pool.dialled r id (scripts.getD id Script.refused)

/-- The sessions of connections that are handed on end in one of the ways provided for if all do. -/
theorem Handed.ends {r : Remote} {scripts : List Script} {id : Id}
    (hquit : ∀ script ∈ scripts, ∀ failure,
      script.quitting = some failure → cutsOff failure = true)
    (h : Handed (firstState r scripts id) us) (hu : u ∈ us) :
    (hangUp (whole u.op u.given).2.connection).1 = .ok () := by
  obtain ⟨ts, hadvances⟩ := whole_advances u.op u.given
  refine (hangUp_spec (hadvances.carrier_eq.trans (h.carrier_eq u hu))).2.2 fun failure hfailure => ?_
  rw [List.getD_eq_getElem?_getD] at hfailure
  cases hscript : scripts[id]? with
  | none =>
    rw [hscript] at hfailure
    cases hfailure
  | some script =>
    rw [hscript] at hfailure
    exact hquit script (List.mem_of_getElem? hscript) failure hfailure

namespace Crew

/-! ## What every step keeps -/

/-- What holds of every crew that began with a new pool, besides: each worker keeps to its operation,
and each connection goes from one use to the next. -/
structure Apart (r : Remote) (scripts : List Script) (c : Crew) : Prop extends Sound r scripts c where
  keeps : ∀ (i : Nat) (w : Worker), c.workers[i]? = some w →
    w.phase.Keeps r scripts w.op c.pool.network (c.said i)
  /-- A worker makes one use of one connection. -/
  given : ∀ i, c.usesBy i = (c.use? i).toList
  known : ∀ u ∈ c.uses, u.given.id ∈ c.pool.network.dialled
  /-- Who holds a connection is the last that it was given to. -/
  latest : ∀ (i : Nat) (w : Worker), c.workers[i]? = some w → ∀ id ∈ w.phase.caller.held,
    (c.usesOf id).getLast? = c.use? i
  handed : ∀ id, Handed (firstState r scripts id) (c.usesOf id)
  /-- A connection that nobody holds is as its last use left it. -/
  free : ∀ id ∈ c.pool.network.dialled,
    (∀ (i : Nat) (w : Worker), c.workers[i]? = some w → id ∉ w.phase.caller.held) →
      c.pool.network.connection id = lastLeft (firstState r scripts id) (c.usesOf id)
  blocks : ∀ id, c.heard id =
    (c.usesOf id).flatMap fun u => (c.said u.worker).map (Prod.mk u.worker)

theorem phase_start {r : Remote} {scripts : List Script} {ops : List Operation} {i : Nat} {w : Worker}
    (hw : (start r scripts ops).workers[i]? = some w) : w.phase = .waiting := by
  obtain ⟨op, -, rfl⟩ := List.mem_map.mp (List.mem_of_getElem? hw)
  rfl

theorem apart_start (r : Remote) (scripts : List Script) (ops : List Operation) :
    Apart r scripts (start r scripts ops) where
  toSound := sound_start r scripts ops
  keeps := by
    intro i w hw
    rw [phase_start hw]
    rfl
  given := by
    intro i
    rw [use?]
    cases hw : (start r scripts ops).workers[i]? with
    | none => rfl
    | some w =>
      rw [Option.bind_some, phase_start hw]
      rfl
  known := by simp [start]
  latest := by
    intro i w hw id hid
    rw [phase_start hw] at hid
    cases hid
  handed := fun id => trivial
  free := by simp [start, Network.dialled]
  blocks := fun id => rfl

section Next
variable {r : Remote} {scripts : List Script} {c : Crew} {i : Nat} {w : Worker} {p' : SessionPool}
  {phase' : Phase}

/-- A step that makes no new use of a connection. -/
structure Stays (c : Crew) (w : Worker) (c' : Crew) (phase' : Phase) : Prop where
  uses_eq : c'.uses = c.uses
  use_eq : ∀ j, c'.use? j = c.use? j
  held_sub : ∀ id ∈ phase'.caller.held, id ∈ w.phase.caller.held
  dialled_eq : c'.pool.network.dialled = c.pool.network.dialled

/-- A step that makes a new use of a connection that nobody holds, as its last use left it. -/
structure Gains (firstState : Id → Connection) (c : Crew) (i : Nat) (w : Worker) (c' : Crew)
    (phase' : Phase) (u : Use) : Prop where
  worker_eq : u.worker = i
  given_before : w.phase.given? = none
  held_before : w.phase.caller.held = []
  held_after : phase'.caller.held = [u.given.id]
  uses_eq : c'.uses = c.uses ++ [u]
  use_eq : ∀ j, c'.use? j = if j = i then some u else c.use? j
  dialled_iff : ∀ id, id ∈ c'.pool.network.dialled ↔ id = u.given.id ∨ id ∈ c.pool.network.dialled
  held_by_none : ∀ (j : Nat) (v : Worker), c.workers[j]? = some v → u.given.id ∉ v.phase.caller.held
  given_eq : u.given = lastLeft (firstState u.given.id) (c.usesOf u.given.id)

theorem Apart.unused (h : Apart r scripts c) {id : Id} (hid : id ∉ c.pool.network.dialled) :
    c.usesOf id = [] := by
  refine List.filter_eq_nil_iff.mpr fun v hv hvid => hid ?_
  rw [← of_decide_eq_true hvid]
  exact h.known v hv

/-- A connection that a worker is given is held by nobody, and is as its last use left it: one from the
shelf was let go of, and one just set up was never used. -/
theorem Apart.found (h : Apart r scripts c) {id : Id} {n : Network}
    (hid : id ∈ c.pool.shelf.idle ∧ n = c.pool.network ∨ id = c.pool.made ∧ ∃ t, n =
      ⟨c.pool.network.connections ++
        [Pool.dialled c.pool.remote c.pool.made c.pool.nextScript], t⟩) :
    (∀ id', id' ∈ n.dialled ↔ id' = id ∨ id' ∈ c.pool.network.dialled) ∧
      (∀ (j : Nat) (v : Worker), c.workers[j]? = some v → id ∉ v.phase.caller.held) ∧
      n.connection id = lastLeft (firstState r scripts id) (c.usesOf id) := by
  rcases hid with ⟨hidle, rfl⟩ | ⟨rfl, t, rfl⟩
  · have hdialled := dialled_of_idle h.custody hidle
    have hfree : ∀ (j : Nat) (v : Worker), c.workers[j]? = some v → id ∉ v.phase.caller.held :=
      fun j v hv hheld => (held_once h.custody hv hheld).1 hidle
    exact ⟨fun id' => ⟨.inr, fun hid' => hid'.elim (fun heq => heq ▸ hdialled) fun hid' => hid'⟩,
      hfree, h.free id hdialled hfree⟩
  · have hfresh : c.pool.made ∉ c.pool.network.dialled :=
      fun hmem => Nat.lt_irrefl _ (h.custody.sound.made _ hmem)
    refine ⟨fun id' => ?_, fun j v hv hheld => hfresh
      (dialled_of_caller h.custody hv (List.mem_append_left _ hheld)), ?_⟩
    · rw [Network.dialled, List.map_append, List.mem_append, or_comm]
      exact or_congr_left List.mem_singleton
    · rw [h.unused hfresh]
      refine (Network.connection_append_self (n := c.pool.network)
        (c := Pool.dialled c.pool.remote c.pool.made c.pool.nextScript) hfresh).trans ?_
      rw [h.remote_eq, SessionPool.nextScript, h.scripts_eq]
      rfl

theorem Apart.stays_or_gains (h : Apart r scripts c) (hw : c.workers[i]? = some w)
    (hsteps : Phase.Steps w.op c.pool w.phase p' phase') :
    c.Stays w (c.next i w p' phase') phase' ∨
      ∃ u, Gains (firstState r scripts) c i w (c.next i w p' phase') phase' u := by
  have huse : ∀ j, (c.next i w p' phase').use? j =
      if j = i then phase'.given?.map (Use.mk i w.op) else c.use? j := use_next hw
  rcases hsteps.given_cases with ⟨hgiven, hheld, hdialled⟩ | ⟨hnone, hheld, id, hphase, hid⟩
  · refine .inl ⟨uses_next_of_given_eq hgiven, fun j => ?_, hheld, hdialled⟩
    rw [huse, hgiven]
    by_cases hij : j = i
    · rw [if_pos hij, hij, use?, hw]
      rfl
    · rw [if_neg hij]
  · let u : Use := ⟨i, w.op, p'.network.connection id⟩
    have hgiven : phase'.given? = some u.given := by rw [hphase]; rfl
    have hu : u.given.id = id := p'.network.connection_id id
    obtain ⟨hdialled, hfree, hleft⟩ := h.found hid
    refine .inr ⟨u, rfl, hnone, hheld, by rw [hphase]; rfl, uses_next_of_given hnone hgiven,
      fun j => by rw [huse, hgiven]; rfl, ?_, ?_, ?_⟩
    · rw [hu]
      exact hdialled
    · rw [hu]
      exact hfree
    · rw [hu]
      exact hleft

/-! ## Whose use is whose -/

theorem Apart.mem_uses (h : Apart r scripts c) {u : Use} (hu : c.use? i = some u) : u ∈ c.uses := by
  have hby := h.given i
  rw [hu] at hby
  exact List.mem_of_mem_filter (hby ▸ List.mem_singleton.mpr rfl : u ∈ c.usesBy i)

theorem Apart.use_of_mem (h : Apart r scripts c) {u : Use} (hu : u ∈ c.uses) :
    c.use? u.worker = some u := by
  have hby : u ∈ c.usesBy u.worker := List.mem_filter.mpr ⟨hu, decide_eq_true rfl⟩
  rw [h.given, Option.mem_toList] at hby
  exact hby

theorem Apart.once (h : Apart r scripts c) : (c.uses.map Use.worker).Nodup := by
  refine List.nodup_iff_count.mpr fun i => ?_
  have hcount : (c.uses.map Use.worker).count i = (c.usesBy i).length := by
    rw [List.count, List.countP_map, List.countP_eq_length_filter]
    rfl
  rw [hcount, h.given i]
  cases c.use? i with
  | none => exact Nat.zero_le 1
  | some u => exact Nat.le_refl 1

/-- The use that a worker makes of the connection it holds is the last one of that connection, and the
only one that the worker makes. -/
theorem Apart.last_use (h : Apart r scripts c) (hw : c.workers[i]? = some w) {id : Id}
    (hid : id ∈ w.phase.caller.held) :
    ∃ front u, c.usesOf id = front ++ [u] ∧ c.use? i = some u ∧ u.worker = i ∧
      (∀ v ∈ front, v.worker ≠ i) ∧ ∀ id', id' ≠ id → ∀ v ∈ c.usesOf id', v.worker ≠ i := by
  obtain ⟨u, hu, hworker, rfl⟩ : ∃ u, c.use? i = some u ∧ u.worker = i ∧ u.given.id = id := by
    rw [use?, hw, Option.bind_some]
    cases hphase : w.phase with
    | talking given left stream =>
      rw [hphase] at hid
      exact ⟨_, rfl, rfl, (List.mem_singleton.mp hid).symm⟩
    | _ =>
      rw [hphase] at hid
      cases hid
  obtain ⟨front, hfront⟩ := List.getLast?_eq_some_iff.mp ((h.latest i w hw _ hid).trans hu)
  refine ⟨front, u, hfront, hu, hworker, fun v hv heq => ?_, fun id' hid' v hv heq => ?_⟩
  · have hsub : ((front ++ [u]).map Use.worker).Sublist (c.uses.map Use.worker) := by
      rw [← hfront]
      exact List.filter_sublist.map Use.worker
    have honce := h.once.sublist hsub
    rw [List.map_append] at honce
    exact (List.nodup_append.mp honce).2.2 _ (List.mem_map_of_mem hv) _
      (List.mem_singleton.mpr rfl) (heq.trans hworker.symm)
  · have hsame := h.use_of_mem (List.mem_of_mem_filter hv)
    rw [heq, hu] at hsame
    cases hsame
    exact hid' (of_decide_eq_true (List.mem_filter.mp hv).2).symm

/-! ## What every step keeps, part by part -/

theorem Apart.keeps_next (h : Apart r scripts c)
    (hquit : ∀ script ∈ scripts, ∀ failure,
      script.quitting = some failure → cutsOff failure = true)
    (hw : c.workers[i]? = some w) (hsteps : Phase.Steps w.op c.pool w.phase p' phase')
    (j : Nat) (v : Worker) (hv : (c.next i w p' phase').workers[j]? = some v) :
    v.phase.Keeps r scripts v.op p'.network ((c.next i w p' phase').said j) := by
  have htied := h.tied w (List.mem_of_getElem? hw)
  rcases getElem_next hw hv with ⟨rfl, rfl⟩ | ⟨hne, hv'⟩
  · have hkeeps := h.keeps j w hw
    rw [← h.remote_eq, ← h.scripts_eq] at hkeeps ⊢
    rw [said_next, if_pos rfl]
    refine hsteps.keeps htied h.opened (fun id hid =>
      dialled_of_caller h.custody hw (List.mem_append_left _ hid)) (fun given told hphase => ?_) hkeeps
    have hu : c.use? j = some ⟨j, w.op, given⟩ := by
      rw [use?, hw, Option.bind_some, hphase]
      rfl
    exact Handed.ends (u := ⟨j, w.op, given⟩) hquit (h.handed given.id)
      (List.mem_filter.mpr ⟨h.mem_uses hu, decide_eq_true rfl⟩)
  · rw [said_next, if_neg hne, List.append_nil]
    refine (h.keeps j v hv').congr fun id hid => hsteps.connection_eq htied ?_ fun hheld => ?_
    · exact h.custody.sound.made id (dialled_of_caller h.custody hv' hid)
    · exact (held_once h.custody hw hheld).2 j v hv' hne hid

theorem Apart.given_next (h : Apart r scripts c) (hw : c.workers[i]? = some w)
    (hsteps : Phase.Steps w.op c.pool w.phase p' phase') (j : Nat) :
    (c.next i w p' phase').usesBy j = ((c.next i w p' phase').use? j).toList := by
  have hgiven := h.given j
  rcases h.stays_or_gains hw hsteps with hstays | ⟨u, hgains⟩
  · rw [usesBy, hstays.uses_eq, hstays.use_eq]
    exact hgiven
  · rw [usesBy_next_of_append hgains.uses_eq, hgains.use_eq, hgiven, hgains.worker_eq]
    by_cases hij : j = i
    · rw [if_pos hij, if_pos hij.symm, hij, use?, hw, Option.bind_some, hgains.given_before]
      rfl
    · rw [if_neg hij, if_neg (Ne.symm hij), List.append_nil]

theorem Apart.known_next (h : Apart r scripts c) (hw : c.workers[i]? = some w)
    (hsteps : Phase.Steps w.op c.pool w.phase p' phase') :
    ∀ u ∈ (c.next i w p' phase').uses, u.given.id ∈ p'.network.dialled := by
  intro v hv
  rcases h.stays_or_gains hw hsteps with hstays | ⟨u, hgains⟩
  · rw [hstays.uses_eq] at hv
    exact hstays.dialled_eq.symm ▸ h.known v hv
  · rw [hgains.uses_eq] at hv
    rcases List.mem_append.mp hv with hv | hv
    · exact (hgains.dialled_iff _).mpr (.inr (h.known v hv))
    · rw [List.mem_singleton.mp hv]
      exact (hgains.dialled_iff _).mpr (.inl rfl)

theorem Apart.latest_next (h : Apart r scripts c) (hw : c.workers[i]? = some w)
    (hsteps : Phase.Steps w.op c.pool w.phase p' phase') (j : Nat) (v : Worker)
    (hv : (c.next i w p' phase').workers[j]? = some v) (id : Id) (hid : id ∈ v.phase.caller.held) :
    ((c.next i w p' phase').usesOf id).getLast? = (c.next i w p' phase').use? j := by
  rcases h.stays_or_gains hw hsteps with hstays | ⟨u, hgains⟩
  · rw [usesOf_next_of_eq hstays.uses_eq, hstays.use_eq]
    rcases getElem_next hw hv with ⟨rfl, rfl⟩ | ⟨-, hv'⟩
    · exact h.latest j w hw id (hstays.held_sub id hid)
    · exact h.latest j v hv' id hid
  · rw [usesOf_next_of_append hgains.uses_eq, hgains.use_eq]
    rcases getElem_next hw hv with ⟨rfl, rfl⟩ | ⟨hne, hv'⟩
    · have heq : id ∈ [u.given.id] := hgains.held_after ▸ hid
      rw [if_pos (List.mem_singleton.mp heq).symm, if_pos rfl, List.getLast?_concat]
    · have hother : u.given.id ≠ id := fun heq => hgains.held_by_none j v hv' (heq ▸ hid)
      rw [if_neg hother, if_neg hne, List.append_nil]
      exact h.latest j v hv' id hid

theorem Apart.handed_next (h : Apart r scripts c) (hw : c.workers[i]? = some w)
    (hsteps : Phase.Steps w.op c.pool w.phase p' phase') (id : Id) :
    Handed (firstState r scripts id) ((c.next i w p' phase').usesOf id) := by
  rcases h.stays_or_gains hw hsteps with hstays | ⟨u, hgains⟩
  · rw [usesOf_next_of_eq hstays.uses_eq]
    exact h.handed id
  · rw [usesOf_next_of_append hgains.uses_eq]
    by_cases hid : u.given.id = id
    · rw [if_pos hid, handed_append]
      exact ⟨h.handed id, hid ▸ hgains.given_eq⟩
    · rw [if_neg hid, List.append_nil]
      exact h.handed id

theorem Apart.free_next (h : Apart r scripts c) (hw : c.workers[i]? = some w)
    (hsteps : Phase.Steps w.op c.pool w.phase p' phase') (id : Id) (hid : id ∈ p'.network.dialled)
    (hfree : ∀ (j : Nat) (v : Worker), (c.next i w p' phase').workers[j]? = some v →
      id ∉ v.phase.caller.held) :
    p'.network.connection id =
      lastLeft (firstState r scripts id) ((c.next i w p' phase').usesOf id) := by
  have htied := h.tied w (List.mem_of_getElem? hw)
  obtain ⟨hself, hothers⟩ : id ∉ phase'.caller.held ∧ ∀ (j : Nat) (v : Worker),
      c.workers[j]? = some v → j ≠ i → id ∉ v.phase.caller.held := by
    obtain ⟨hi, -⟩ := List.getElem?_eq_some_iff.mp hw
    refine ⟨hfree i { w with phase := phase' } ?_, fun j v hv hne => hfree j v ?_⟩
    · rw [next, List.getElem?_set_self hi]
    · rw [next, List.getElem?_set_ne (Ne.symm hne), hv]
  -- Unless the worker lets go of the connection now, nobody held it before either.
  have hbefore : id ∈ c.pool.network.dialled → id ∉ w.phase.caller.held →
      p'.network.connection id = lastLeft (firstState r scripts id) (c.usesOf id) := by
    intro hdialled hheld
    rw [hsteps.connection_eq htied (h.custody.sound.made id hdialled) hheld]
    refine h.free id hdialled fun j v hv hid' => ?_
    by_cases hij : j = i
    · rw [hij, hw] at hv
      cases hv
      exact hheld hid'
    · exact hothers j v hv hij hid'
  rcases h.stays_or_gains hw hsteps with hstays | ⟨u, hgains⟩
  · rw [usesOf_next_of_eq hstays.uses_eq]
    have hdialled : id ∈ c.pool.network.dialled := hstays.dialled_eq ▸ hid
    by_cases hheld : id ∈ w.phase.caller.held
    · obtain ⟨given, told, stream, hphase, rfl, hconnection⟩ := hsteps.lets_go hheld hself
      obtain ⟨front, u, hfront, hu, -⟩ := h.last_use hw hheld
      have hkeeps := h.keeps i w hw
      rw [use?, hw, Option.bind_some, hphase] at hu
      rw [hphase] at hkeeps
      cases hu
      rw [hfront, lastLeft_append, hconnection]
      exact hkeeps.ended.2.2
    · exact hbefore hdialled hheld
  · have hother : u.given.id ≠ id := by
      rintro rfl
      exact hself (hgains.held_after ▸ List.mem_singleton.mpr rfl)
    rw [usesOf_next_of_append hgains.uses_eq, if_neg hother, List.append_nil]
    refine hbefore (((hgains.dialled_iff id).mp hid).resolve_left (Ne.symm hother)) ?_
    rw [hgains.held_before]
    exact List.not_mem_nil

theorem Apart.blocks_quiet (h : Apart r scripts c) (hw : c.workers[i]? = some w)
    (hsteps : Phase.Steps w.op c.pool w.phase p' phase')
    (hquiet : ∀ e ∈ c.pool.network.since p'.network, e.action.control? = none) (id : Id) :
    (c.next i w p' phase').heard id = ((c.next i w p' phase').usesOf id).flatMap fun u =>
      ((c.next i w p' phase').said u.worker).map (Prod.mk u.worker) := by
  have hsaid : ∀ j, (c.next i w p' phase').said j = c.said j := by
    intro j
    rw [said_next, spoken, List.filterMap_eq_nil_iff.mpr hquiet, ite_self, List.append_nil]
  simp only [heard_next_of_quiet hquiet, hsaid]
  rcases h.stays_or_gains hw hsteps with hstays | ⟨u, hgains⟩
  · rw [usesOf_next_of_eq hstays.uses_eq]
    exact h.blocks id
  · have hsilent : c.said u.worker = [] := by
      rw [hgains.worker_eq]
      exact (h.keeps i w hw).silent hgains.given_before
    rw [usesOf_next_of_append hgains.uses_eq, List.flatMap_append, ← h.blocks id]
    by_cases hid : u.given.id = id
    · rw [if_pos hid, List.flatMap_singleton, hsilent]
      exact (List.append_nil _).symm
    · rw [if_neg hid]
      exact (List.append_nil _).symm

/-- What passes on the connection that a worker holds comes at the end of the worker's block, which is
the last one there. -/
theorem Apart.blocks_on (h : Apart r scripts c) (hw : c.workers[i]? = some w)
    (hsteps : Phase.Steps w.op c.pool w.phase p' phase') {on : Id}
    (hheld : on ∈ w.phase.caller.held)
    (hon : ∀ e ∈ c.pool.network.since p'.network, e.connection = on) (id : Id) :
    (c.next i w p' phase').heard id = ((c.next i w p' phase').usesOf id).flatMap fun u =>
      ((c.next i w p' phase').said u.worker).map (Prod.mk u.worker) := by
  obtain ⟨front, u, hfront, hu, hworker, hbefore, hothers⟩ := h.last_use hw hheld
  have hstays : c.Stays w (c.next i w p' phase') phase' := by
    refine (h.stays_or_gains hw hsteps).resolve_right ?_
    rintro ⟨v, hgains⟩
    rw [hgains.held_before] at hheld
    cases hheld
  have hsaid : ∀ v : Use, v.worker ≠ i →
      ((c.next i w p' phase').said v.worker).map (Prod.mk v.worker) =
        (c.said v.worker).map (Prod.mk v.worker) := by
    intro v hv
    rw [said_next, if_neg hv, List.append_nil]
  rw [heard_next_of_on hon, usesOf_next_of_eq hstays.uses_eq, h.blocks id]
  by_cases hid : on = id
  · have hgrown : ((c.next i w p' phase').said u.worker).map (Prod.mk u.worker) =
        (c.said u.worker).map (Prod.mk u.worker) ++ (spoken c.pool p').map (Prod.mk i) := by
      rw [said_next, if_pos hworker, List.map_append, hworker]
    rw [if_pos hid, ← hid, hfront, List.flatMap_append, List.flatMap_append, List.flatMap_singleton,
      List.flatMap_singleton, hgrown, List.flatMap_congr fun v hv => hsaid v (hbefore v hv),
      List.append_assoc]
  · rw [if_neg hid, List.append_nil,
      List.flatMap_congr fun v hv => hsaid v (hothers id (Ne.symm hid) v hv)]

theorem Apart.next (h : Apart r scripts c)
    (hquit : ∀ script ∈ scripts, ∀ failure,
      script.quitting = some failure → cutsOff failure = true)
    (hw : c.workers[i]? = some w) (hsteps : Phase.Steps w.op c.pool w.phase p' phase') :
    Apart r scripts (c.next i w p' phase') where
  toSound := h.toSound.next hw hsteps
  keeps := h.keeps_next hquit hw hsteps
  given := h.given_next hw hsteps
  known := h.known_next hw hsteps
  latest := h.latest_next hw hsteps
  handed := h.handed_next hw hsteps
  free := h.free_next hw hsteps
  blocks := by
    rcases hsteps.quiet_or_on (h.tied w (List.mem_of_getElem? hw)) with hquiet | ⟨on, hheld, hon⟩
    · exact h.blocks_quiet hw hsteps hquiet
    · exact h.blocks_on hw hsteps hheld hon

end Next

theorem apart_run {r : Remote} {scripts : List Script}
    (hquit : ∀ script ∈ scripts, ∀ failure,
      script.quitting = some failure → cutsOff failure = true)
    (ops : List Operation) (schedule : List Nat) :
    Apart r scripts ((start r scripts ops).run schedule) :=
  run_induction (apart_start r scripts ops)
    (fun _ _ _ _ _ h hw hsteps => h.next hquit hw hsteps) schedule

theorem ops_run (c : Crew) (schedule : List Nat) :
    (c.run schedule).workers.map Worker.op = c.workers.map Worker.op := by
  refine run_induction (P := fun c' => c'.workers.map Worker.op = c.workers.map Worker.op) rfl
    (fun c' i w p' phase' h hw _ => ?_) schedule
  obtain ⟨before, after, hworkers, hset, -⟩ := workers_split hw
  rw [← h, next, hset, hworkers, List.map_append, List.map_append]
  rfl

end Crew
end FileTransfer.Pool
