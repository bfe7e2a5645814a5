import FileTransfer.Proofs.Pool.Crew

/-!
# Steps of a crew

What a step of one worker makes of its crew.

* `run_induction`: what each step keeps holds whatever the schedule is.
* `held_once`: a connection that a worker holds is nowhere else.
* `Sound`, `Sound.next`: what holds of every crew that began with a new pool.
* `uses_next_of_given`, `said_next`, `heard_next_of_on`, …: what is written down of a step.
-/

namespace FileTransfer.Pool
open FileTransfer.Session FileTransfer.Settings
set_option autoImplicit false

/-! ## One step of many -/

namespace Crew

/-- What holds of a crew and is kept by each step of a worker holds whatever the schedule is. -/
theorem run_induction {P : Crew → Prop} {c : Crew} (hstart : P c)
    (hnext : ∀ (c : Crew) (i : Nat) (w : Worker) (p' : SessionPool) (phase' : Phase), P c →
      c.workers[i]? = some w → Phase.Steps w.op c.pool w.phase p' phase' →
      P (c.next i w p' phase')) (schedule : List Nat) : P (c.run schedule) := by
  induction schedule generalizing c with
  | nil => exact hstart
  | cons i schedule ih =>
    refine ih ?_
    rw [step]
    cases hw : c.workers[i]? with
    | none => exact hstart
    | some w => exact hnext c i w _ _ hstart hw (Phase.steps_step w.op c.pool w.phase)

variable {c : Crew} {i : Nat} {w : Worker} {p' : SessionPool} {phase' : Phase}

theorem getElem_next (hw : c.workers[i]? = some w) {j : Nat} {v : Worker}
    (hv : (c.next i w p' phase').workers[j]? = some v) :
    j = i ∧ v = { w with phase := phase' } ∨ j ≠ i ∧ c.workers[j]? = some v := by
  obtain ⟨hi, -⟩ := List.getElem?_eq_some_iff.mp hw
  rw [next, List.getElem?_set] at hv
  by_cases hij : i = j
  · rw [if_pos hij, if_pos hi] at hv
    exact .inl ⟨hij.symm, (Option.some.inj hv).symm⟩
  · rw [if_neg hij] at hv
    exact .inr ⟨Ne.symm hij, hv⟩

theorem workers_split (hw : c.workers[i]? = some w) :
    ∃ before after, c.workers = before ++ w :: after ∧
      (∀ v, c.workers.set i v = before ++ v :: after) ∧
      ∀ (j : Nat) (v : Worker), c.workers[j]? = some v → j ≠ i → v ∈ before ++ after := by
  obtain ⟨hi, hget⟩ := List.getElem?_eq_some_iff.mp hw
  refine ⟨c.workers.take i, c.workers.drop (i + 1), ?_,
    fun v => List.set_eq_take_append_cons_drop.trans (if_pos hi), fun j v hv hne => ?_⟩
  · rw [← hget, ← List.drop_eq_getElem_cons hi, List.take_append_drop]
  · rw [← List.eraseIdx_eq_take_drop_succ]
    exact List.mem_eraseIdx_iff_getElem?.mpr ⟨j, hne, hv⟩

theorem reaches_next (hw : c.workers[i]? = some w)
    (hsteps : Phase.Steps w.op c.pool w.phase p' phase') (htied : w.phase.Tied) :
    Crowd.Reaches c.crowd (c.next i w p' phase').crowd := by
  obtain ⟨before, after, hworkers, hset, -⟩ := workers_split hw
  have hreach := Crowd.reaches_of_moves (before.map (·.phase.caller)) (after.map (·.phase.caller))
    (hsteps.moves htied)
  rw [crowd, crowd, next, hset, hworkers, List.map_append, List.map_append]
  exact hreach

/-- The places of a connection, as far as they are with one worker or the pool. -/
theorem places_worker (hw : c.workers[i]? = some w) :
    ∃ others : List Worker,
      (∀ (j : Nat) (v : Worker), c.workers[j]? = some v → j ≠ i → v ∈ others) ∧
      ∀ id, c.crowd.places id = share c.pool w.phase.caller id +
        (others.flatMap fun v => v.phase.caller.held).count id +
        (others.flatMap fun v => v.phase.caller.due).count id := by
  obtain ⟨before, after, hworkers, -, hothers⟩ := workers_split hw
  refine ⟨before ++ after, hothers, fun id => ?_⟩
  rw [crowd, hworkers, List.map_append, List.map_cons, Crowd.places_split, ← List.map_append,
    List.flatMap_map, List.flatMap_map]

theorem dialled_of_caller (hcustody : Crowd.Custody c.crowd) (hw : c.workers[i]? = some w) {id : Id}
    (hid : id ∈ w.phase.caller.held ++ w.phase.caller.due) : id ∈ c.pool.network.dialled := by
  obtain ⟨others, -, hplaces⟩ := places_worker hw
  have hcount := List.count_pos_iff.mpr hid
  rw [List.count_append] at hcount
  refine hcustody.dialled_of_place ?_
  rw [hplaces, share]
  omega

theorem dialled_of_idle (hcustody : Crowd.Custody c.crowd) {id : Id}
    (hid : id ∈ c.pool.shelf.idle) : id ∈ c.pool.network.dialled := hcustody.dialled_of_idle hid

/-- A connection that a worker holds is with no other worker and not on the shelf. -/
theorem held_once (hcustody : Crowd.Custody c.crowd) (hw : c.workers[i]? = some w) {id : Id}
    (hid : id ∈ w.phase.caller.held) :
    id ∉ c.pool.shelf.idle ∧ ∀ (j : Nat) (v : Worker), c.workers[j]? = some v → j ≠ i →
      id ∉ v.phase.caller.held ++ v.phase.caller.due := by
  obtain ⟨others, hothers, hplaces⟩ := places_worker hw
  have hcount := List.count_pos_iff.mpr hid
  have hone := hcustody.places_le_one id
  rw [hplaces, share] at hone
  -- Any other place would be a second one, and the count of all is one at most.
  refine ⟨fun hidle => ?_, fun j v hv hne hplace => ?_⟩
  · have hidle' := List.count_pos_iff.mpr hidle
    omega
  · rcases List.mem_append.mp hplace with hheld | hdue
    · have hmem : id ∈ others.flatMap fun v => v.phase.caller.held :=
        List.mem_flatMap.mpr ⟨v, hothers j v hv hne, hheld⟩
      have hheld' := List.count_pos_iff.mpr hmem
      omega
    · have hmem : id ∈ others.flatMap fun v => v.phase.caller.due :=
        List.mem_flatMap.mpr ⟨v, hothers j v hv hne, hdue⟩
      have hdue' := List.count_pos_iff.mpr hmem
      omega

/-- What holds of every crew that began with a new pool. -/
structure Sound (r : Remote) (scripts : List Script) (c : Crew) : Prop where
  remote_eq : c.pool.remote = r
  scripts_eq : c.pool.scripts = scripts
  opened : c.pool.shelf.closed = false
  custody : Crowd.Custody c.crowd
  tied : ∀ w ∈ c.workers, w.phase.Tied

theorem sound_start (r : Remote) (scripts : List Script) (ops : List Operation) :
    Sound r scripts (start r scripts ops) where
  remote_eq := rfl
  scripts_eq := rfl
  opened := rfl
  custody := by
    have hcallers : (start r scripts ops).workers.map (fun w => w.phase.caller) =
        List.replicate ops.length .away := by
      rw [start, List.map_map]
      exact List.map_const' ..
    have hcrowd : (start r scripts ops).crowd = Crowd.fresh r scripts ops.length :=
      congrArg (Crowd.mk { remote := r, scripts }) hcallers
    rw [hcrowd]
    exact Crowd.custody_fresh r scripts ops.length
  tied := by
    intro w hw
    obtain ⟨op, -, rfl⟩ := List.mem_map.mp hw
    trivial

theorem Sound.next {r : Remote} {scripts : List Script} (h : Sound r scripts c)
    (hw : c.workers[i]? = some w) (hsteps : Phase.Steps w.op c.pool w.phase p' phase') :
    Sound r scripts (c.next i w p' phase') := by
  have htied := h.tied w (List.mem_of_getElem? hw)
  obtain ⟨hremote, hscripts, hclosed⟩ := hsteps.settings
  refine ⟨hremote.trans h.remote_eq, hscripts.trans h.scripts_eq, hclosed.trans h.opened,
    Crowd.custody_of_reaches h.custody (reaches_next hw hsteps htied), fun v hv => ?_⟩
  rcases List.mem_or_eq_of_mem_set hv with hv | rfl
  · exact h.tied v hv
  · exact hsteps.tied htied

/-! ## What a step adds -/

def usesBy (c : Crew) (i : Nat) : List Use := c.uses.filter fun u => u.worker = i

/-- The use that a worker makes of the connection it was given. -/
def use? (c : Crew) (i : Nat) : Option Use :=
  c.workers[i]?.bind fun w => w.phase.given?.map (Use.mk i w.op)

theorem uses_next_of_given_eq (hgiven : phase'.given? = w.phase.given?) :
    (c.next i w p' phase').uses = c.uses := by
  rw [next, hgiven]
  cases w.phase.given? <;> exact List.append_nil _

theorem uses_next_of_given {given : Connection} (hnone : w.phase.given? = none)
    (hgiven : phase'.given? = some given) :
    (c.next i w p' phase').uses = c.uses ++ [⟨i, w.op, given⟩] := by
  rw [next, hnone, hgiven]
  rfl

theorem usesOf_next_of_eq (huses : (c.next i w p' phase').uses = c.uses) (id : Id) :
    (c.next i w p' phase').usesOf id = c.usesOf id := by
  rw [usesOf, huses, usesOf]

theorem usesOf_next_of_append {u : Use} (huses : (c.next i w p' phase').uses = c.uses ++ [u])
    (id : Id) :
    (c.next i w p' phase').usesOf id = c.usesOf id ++ if u.given.id = id then [u] else [] := by
  rw [usesOf, huses, List.filter_append, List.filter_cons, List.filter_nil, usesOf]
  simp only [decide_eq_true_eq]

theorem usesBy_next_of_append {u : Use} (huses : (c.next i w p' phase').uses = c.uses ++ [u])
    (j : Nat) :
    (c.next i w p' phase').usesBy j = c.usesBy j ++ if u.worker = j then [u] else [] := by
  rw [usesBy, huses, List.filter_append, List.filter_cons, List.filter_nil, usesBy]
  simp only [decide_eq_true_eq]

theorem use_next (hw : c.workers[i]? = some w) (j : Nat) :
    (c.next i w p' phase').use? j =
      if j = i then phase'.given?.map (Use.mk i w.op) else c.use? j := by
  obtain ⟨hi, -⟩ := List.getElem?_eq_some_iff.mp hw
  rw [use?, next, List.getElem?_set]
  by_cases hij : j = i
  · rw [if_pos hij.symm, if_pos hi, if_pos hij, hij]
    rfl
  · rw [if_neg (Ne.symm hij), if_neg hij]
    rfl

theorem said_next (j : Nat) :
    (c.next i w p' phase').said j = c.said j ++ if j = i then spoken c.pool p' else [] := by
  rw [said, next, List.filterMap_append, List.filterMap_map]
  congr 1
  by_cases hij : j = i
  · rw [if_pos hij, hij]
    exact List.filterMap_congr fun e _ => if_pos rfl
  · rw [if_neg hij]
    exact List.filterMap_eq_nil_iff.mpr fun e _ => if_neg (Ne.symm hij)

theorem heard_next_of_quiet
    (hquiet : ∀ e ∈ c.pool.network.since p'.network, e.action.control? = none) (id : Id) :
    (c.next i w p' phase').heard id = c.heard id := by
  rw [heard, next, List.filterMap_append, List.filterMap_map]
  refine (congrArg (c.heard id ++ ·) (List.filterMap_eq_nil_iff.mpr fun e he => ?_)).trans
    (List.append_nil _)
  rw [Function.comp_apply]
  dsimp only
  rw [hquiet e he]
  exact ite_self _

theorem heard_next_of_on {on : Id}
    (hon : ∀ e ∈ c.pool.network.since p'.network, e.connection = on) (id : Id) :
    (c.next i w p' phase').heard id =
      c.heard id ++ if on = id then (spoken c.pool p').map (Prod.mk i) else [] := by
  rw [heard, next, List.filterMap_append, List.filterMap_map]
  congr 1
  by_cases hid : on = id
  · rw [if_pos hid, spoken, List.map_filterMap]
    exact List.filterMap_congr fun e he => if_pos ((hon e he).trans hid)
  · rw [if_neg hid]
    exact List.filterMap_eq_nil_iff.mpr fun e he => if_neg fun he' => hid ((hon e he).symm.trans he')

end Crew
end FileTransfer.Pool
