import FileTransfer.Proofs.Pool.Apart

/-!
# Operations do not meet

However the steps of any number of operations are interleaved over one pool, what passes on a connection
is one block after another, a block for each operation that the connection was given to, and each
operation lets pass and comes to what it would if it were alone with its connection as it was given.

* `Crew.AsAlone`: a worker against its operation alone with the connection.
* `Crew.Isolated`, `run_isolated`: what is seen of a crew whose workers do not meet.
-/

namespace FileTransfer.Pool
open FileTransfer.Session FileTransfer.Settings
set_option autoImplicit false

namespace Crew

/-- What worker `i` let pass and came to, against what its operation lets pass and comes to when it is
alone with the connection that the worker was given. -/
def AsAlone (r : Remote) (scripts : List Script) (c : Crew) (i : Nat) (w : Worker) : Prop :=
  match w.phase with
  | .waiting | .dialling => c.said i = []
  | .finished none result => c.said i = [] ∧ NotSetUp r scripts result
  | .talking given _ _ | .parting given _ =>
    ⟨i, w.op, given⟩ ∈ c.uses ∧ (c.said i).map (Prod.mk given.id) <+: passes r w.op given
  | .finished (some given) result =>
    ⟨i, w.op, given⟩ ∈ c.uses ∧ (c.said i).map (Prod.mk given.id) = passes r w.op given ∧
      result = (Pool.perform w.op (alone r given)).1

/-- What is seen of a crew whose workers do not meet on a connection. -/
structure Isolated (r : Remote) (scripts : List Script) (c : Crew) : Prop where
  /-- No worker has two connections, or one twice. -/
  once : (c.uses.map Use.worker).Nodup
  /-- What passes on a connection is one block after another, one for each worker it was given to. -/
  blocks : ∀ id, c.heard id =
    (c.usesOf id).flatMap fun u => (c.said u.worker).map (Prod.mk u.worker)
  /-- A connection is given out as the worker before left it. -/
  handed : ∀ id, Handed (firstState r scripts id) (c.usesOf id)
  alone : ∀ (i : Nat) (w : Worker), c.workers[i]? = some w → c.AsAlone r scripts i w

theorem Apart.asAlone {r : Remote} {scripts : List Script} {c : Crew} (h : Apart r scripts c)
    (hquit : ∀ script ∈ scripts, ∀ failure,
      script.quitting = some failure → cutsOff failure = true)
    (i : Nat) (w : Worker) (hw : c.workers[i]? = some w) : c.AsAlone r scripts i w := by
  obtain ⟨op, phase⟩ := w
  have hkeeps := h.keeps i _ hw
  have htied := h.tied _ (List.mem_of_getElem? hw)
  have hmem : ∀ given, phase.given? = some given → ⟨i, op, given⟩ ∈ c.uses := by
    intro given hgiven
    refine h.mem_uses (i := i) ?_
    rw [use?, hw, Option.bind_some, hgiven]
    rfl
  cases phase with
  | waiting | dialling => exact hkeeps
  | talking given left stream =>
    obtain ⟨t, ht, hrun⟩ := hkeeps
    let held : Holding := { connection := c.pool.network.connection given.id, stream }
    have htied' : (held.after t).Tied :=
      fun s hs => (htied s hs).trans (c.pool.network.connection_id given.id).symm
    obtain ⟨added, hadded, -⟩ := (Holding.advances_run left _ htied').traced
    have hwhole : (whole op given).2.trace.control = c.said i ++ added.control := by
      rw [← hrun, hadded, ← ht, ← Trace.control_append]
      exact congrArg (fun t => (t ++ added).control) (Trace.append_empty t)
    refine ⟨hmem given rfl, ?_⟩
    rw [passes_alone, hwhole, List.map_append]
    exact List.prefix_append _ _
  | parting given told =>
    obtain ⟨-, hsaid, -⟩ := hkeeps
    have hpasses : (c.said i).map (Prod.mk given.id) = passes r op given := by
      rw [passes_alone, hsaid]
    exact ⟨hmem given rfl, hpasses ▸ List.prefix_refl _⟩
  | finished given? result =>
    cases given? with
    | none => exact hkeeps
    | some given =>
      obtain ⟨hsaid, hresult⟩ := hkeeps
      have hu := hmem given rfl
      have hends := Handed.ends hquit (h.handed given.id)
        (List.mem_filter.mpr ⟨hu, decide_eq_true rfl⟩)
      refine ⟨hu, ?_, hresult.trans (perform_alone r op given hends).symm⟩
      rw [passes_alone, hsaid]

/-- Whatever the order in which any number of operations take their steps over one pool, what passes on
a connection is one block after another, one for each operation that the connection was given to. Each
operation finds its connection as the one before left it, lets pass on it what it would if it were
alone with it, as far as it has come, and comes to what it would come to; one that is given no
connection lets nothing pass, and fails as the session did that could not be set up for it. -/
theorem run_isolated {r : Remote} {scripts : List Script}
    (hquit : ∀ script ∈ scripts, ∀ failure,
      script.quitting = some failure → cutsOff failure = true)
    (ops : List Operation) (schedule : List Nat) :
    ((start r scripts ops).run schedule).workers.map Worker.op = ops ∧
      ((start r scripts ops).run schedule).Isolated r scripts := by
  have hapart := apart_run (r := r) hquit ops schedule
  refine ⟨(ops_run _ schedule).trans ?_, hapart.once, hapart.blocks, hapart.handed,
    hapart.asAlone hquit⟩
  rw [start, List.map_map]
  exact List.map_id' ops

/-- A renaming and a look at the working directory take their steps in turn; a deletion is then given
the connection of the renaming. -/
theorem run_isolated_handed_on :
    ∃ c : Crew,
      c.Isolated { name := .text "files", type := .text "ftp", host := .text "server" }
        [{ replies := [.ok "350 go on", .ok "250 done", .ok "250 gone"] },
          { replies := [.ok "257 \"/\""] }] ∧
      c.heard 0 = [(0, .sent "RNFR a"), (0, .got "350 go on"), (0, .sent "RNTO b"),
        (0, .got "250 done"), (2, .sent "DELE c"), (2, .got "250 gone")] ∧
      c.heard 1 = [(1, .sent "PWD"), (1, .got "257 \"/\"")] :=
  ⟨_, (run_isolated (by simp)
    [.rename (.plain "a") (.plain "b"), .workingDirectory, .delete (.plain "c")]
    ((List.replicate 13 [0, 1]).flatten ++ List.replicate 8 2)).2, by decide +kernel, by decide +kernel⟩

end Crew
end FileTransfer.Pool
