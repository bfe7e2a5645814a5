import FileTransfer.Proofs.Dialogue.Plan
import FileTransfer.Proofs.Pool.Network
import FileTransfer.Proofs.Pool.ReadDirectory
import FileTransfer.Proofs.Pool.Watch

/-!
# The command lines of operations

The lines that an operation sends over a pool are those of its plan up to some point, and all of them
when it does not fail.

* `Call.control?`: what a call lets pass on a control channel.
* `usage_control`: what passes on the control channels while a dialogue is carried out.
* `perform_sends_plan`: the lines of an operation.
-/

namespace FileTransfer.Pool
open FileTransfer.Session
set_option autoImplicit false

/-- What a call lets pass on a control channel, with the connection. -/
def Call.control? : Call → Option (Id × Control)
  | .seen e => e.action.control?.map (Prod.mk e.connection)
  | _ => none

variable {ω : Type} [Pool ω]

theorem control_seen_on {id : Id} {t : Trace} (h : t.On id) :
    (t.events.map Call.seen).filterMap Call.control? = t.control.map (Prod.mk id) := by
  rw [List.filterMap_map, Trace.control, List.map_filterMap]
  refine List.filterMap_congr fun e he => ?_
  rw [← (h e he).1]
  rfl

theorem usage_control {α : Type} (d : Dialogue α) {w w' : ω} {id : Id}
    (hacquire : Pool.acquire w = (.ok id, w')) :
    (Watched.usage d w).filterMap Call.control? =
      ((Holding.turns d { connection := (Pool.network w').connection id }).flatMap
        Turn.control).map (Prod.mk id) := by
  let held : Holding := { connection := (Pool.network w').connection id }
  have htied : held.Tied := Holding.tied_new held.connection
  have hid : held.connection.id = id := Network.connection_id (Pool.network w') id
  obtain ⟨added, htrace, hon, hcontrol⟩ := (Holding.advances_run d held htied).traced
  have hevents := Holding.account_events d held htied
  have hnothing : held.trace = {} := rfl
  rw [htrace, hnothing] at hevents
  have hadded : (Holding.account d held).flatMap Prod.snd = added.events := hevents.symm
  rw [hid] at hon
  rw [Watched.usage, hacquire]
  dsimp only
  rw [hadded, List.filterMap_cons_none rfl, List.filterMap_append, control_seen_on hon, hcontrol]
  exact List.append_nil _

/-- A failure stays one, whatever becomes of the connection. -/
theorem unlessFails_error {α : Type} (failure : Failure) (released : Except Failure Unit) :
    ∃ later, unlessFails (.error failure : Except Failure α) released = .error later := by
  cases released with
  | ok _ => exact ⟨failure, rfl⟩
  | error later => exact ⟨later, rfl⟩

/-- The lines that an operation sends are those at the front of its plan, on one connection, with each
path as it is and none with a line break; the second line of a renaming only after one whole reply to
the first, with code 350; and the whole plan if the operation does not fail. That each line is made
from a template, and made again, changes nothing. -/
theorem perform_sends_plan (op : Operation) (w : ω) :
    op.worded = op.dialogue ∧
    ∃ (id : Id) (cs : List Control),
      (Pool.perform op (⟨w, []⟩ : Watched ω)).2.calls.filterMap Call.control? =
        cs.map (Prod.mk id) ∧
      linesSent cs <+: op.plan ∧
      (∀ line ∈ linesSent cs, hasLineBreak line = false) ∧
      (∀ source target, op = .rename source target → "RNTO " ++ target.wire ∈ linesSent cs →
        ∃ (f : Reply.Frame) (rest : List Control), f.WellFormed ∧ f.code = 350 ∧
          cs = .sent ("RNFR " ++ source.wire) ::
            (f.lines.map .got ++ .sent ("RNTO " ++ target.wire) :: rest)) ∧
      ((∃ answer, (Pool.perform op w).1 = .ok answer) → linesSent cs = op.plan) := by
  refine ⟨op.worded_eq, ?_⟩
  rw [Watched.perform_watched]
  dsimp only
  rw [List.nil_append]
  rcases hacquire : Pool.acquire w with ⟨failure | id, w'⟩
  · have hfailed : (Pool.perform op w).1 = .error failure := by
      rw [perform, withConnection, bracket, hacquire]
    refine ⟨0, [], ?_, List.nil_prefix, by simp [linesSent], by simp [linesSent], ?_⟩
    · rw [Watched.usage, hacquire]
      rfl
    · rintro ⟨answer, hok⟩
      rw [hfailed] at hok
      cases hok
  · let held : Holding := { connection := (Pool.network w').connection id }
    have hcourse := Holding.course_turns op.dialogue held
    obtain ⟨hfront, hsingle, hwhole⟩ := Dialogue.sends_operation op _ _ hcourse
    refine ⟨id, _, usage_control op.dialogue hacquire, hfront, hsingle, ?_, ?_⟩
    · rintro source target rfl hsent
      exact Dialogue.renamed_after_reply hcourse hsent
    · rintro ⟨answer, hok⟩
      have hresult := perform_eq hacquire op (show (Holding.run op.dialogue held).1 = _ from rfl)
      rw [hok] at hresult
      refine hwhole ?_
      cases htold : (Holding.run op.dialogue held).1 with
      | ok told => exact ⟨told, rfl⟩
      | error failure =>
        obtain ⟨later, hlater⟩ := unlessFails_error failure
          (Pool.release id (Pool.converse id op.dialogue w').2).1
        have hfailed : Except.ok answer = .error later := by
          rw [hresult, htold]
          exact hlater
        cases hfailed

/-- A server that goes along with a change of name. -/
def goingAlong : Script where
  replies := [.ok "350-which", .ok "350 go on", .ok "250 done"]

/-- Percent signs and quote marks in a path go out as they are. -/
theorem perform_sends_plan_percent :
    ∃ (id : Id) (cs : List Control),
      (Pool.perform (.rename (.plain "100%s") (.plain "a \"b\"%"))
        (⟨ReplayPool.ofScripts [goingAlong] [], []⟩ : Watched ReplayPool)).2.calls.filterMap
          Call.control? = cs.map (Prod.mk id) ∧
      linesSent cs = ["RNFR 100%s", "RNTO a \"b\"%"] := by
  let w := ReplayPool.ofScripts [goingAlong] []
  obtain ⟨-, id, cs, hcalls, -, -, -, hwhole⟩ :=
    perform_sends_plan (.rename (.plain "100%s") (.plain "a \"b\"%")) w
  have hok : (Pool.perform (.rename (.plain "100%s") (.plain "a \"b\"%")) w).1 = .ok .nothing := by
    decide +kernel
  exact ⟨id, cs, hcalls, hwhole ⟨_, hok⟩⟩

end FileTransfer.Pool
