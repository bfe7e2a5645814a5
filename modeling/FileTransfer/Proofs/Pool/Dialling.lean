import FileTransfer.Proofs.Pool.Network

/-!
# Sessions that are not set up

A pool with nothing on its shelf sets up a session for whoever asks. When a step of that fails, the
caller is told so in the client's own terms and the session is cut off, but only for the failures
that the pool provides for.

* `runSteps_of_failure`: the steps are done up to the first that fails.
* `Failure.deniesSession`: how a caller is told that it gets no session.
* `dialFailure?_fault`: the failures that are told so.
* `dial_failure`: what becomes of each failure, of the session, and of the shelf.
* `dial_failure_unreported`: a server that does not speak the protocol.
-/

namespace FileTransfer
open FileTransfer.Session FileTransfer.Settings
set_option autoImplicit false

/-- The failures that tell a caller that it gets no session: it may not log in, or the server refuses
something else, or it is out of reach. -/
def Failure.deniesSession : Failure → Bool
  | .notAuthenticated _ | .sessionRefused _ | .unreachable .. => true
  | _ => false

namespace Pool

theorem runSteps_of_failure {before : List (Action × Option Failure)}
    (hbefore : ∀ step ∈ before, step.2 = none) (action : Action) (failure : Failure)
    (after : List (Action × Option Failure)) :
    runSteps (before ++ (action, some failure) :: after) =
      (before.map Prod.fst ++ [action], some failure) := by
  induction before with
  | nil => rfl
  | cons step before ih =>
    obtain ⟨first, failure?⟩ := step
    have hnone : failure? = none := hbefore _ List.mem_cons_self
    have hrest := ih fun step hstep => hbefore step (List.mem_cons_of_mem _ hstep)
    subst hnone
    rw [List.cons_append, runSteps, hrest]
    rfl

theorem dialFailure?_fault (host : Value) (f : Fault) :
    if f.isOutage || f.isRefusal then
      ∃ reported, dialFailure? host (.fault f) = some reported ∧
        reported.deniesSession = true ∧ reported.cause? = some f
    else dialFailure? host (.fault f) = none := by
  cases f with
  | system kind text => exact ⟨_, rfl, rfl, rfl⟩
  | endOfData text => exact ⟨_, rfl, rfl, rfl⟩
  | session kind text =>
    cases kind with
    | permanent =>
      -- A refusal that is final is one to log in, or another one.
      change ∃ reported : Failure,
        (if holds loginRefused text.toList then
            some (Failure.notAuthenticated (.session .permanent text))
          else some (Failure.sessionRefused (.session .permanent text))) = some reported ∧ _
      split
      · exact ⟨_, rfl, rfl, rfl⟩
      · exact ⟨_, rfl, rfl, rfl⟩
    | temporary => exact ⟨_, rfl, rfl, rfl⟩
    | unexpected => exact ⟨_, rfl, rfl, rfl⟩
    | general => rfl
    | malformed => rfl
  | _ => rfl

/-- The session that an open pool with an empty shelf sets up fails at its first step that does. When
the channel is gone or the server refuses, the caller is told that it gets no session, with the
failure as the cause, and the session is cut off. Any other failure reaches the caller as it is, and
the session is left as it is. The shelf is the same after either. -/
theorem dial_failure {p : SessionPool} {before after : List (Action × Option Failure)}
    {action : Action} {f : Fault} (hopen : p.shelf.closed = false) (hidle : p.shelf.idle = [])
    (hsteps : dialSteps p.remote p.nextScript = before ++ (action, some (.fault f)) :: after)
    (hbefore : ∀ step ∈ before, step.2 = none) :
    let done := .create (wantsSecurity p.remote) :: (before.map Prod.fst ++ [action])
    let onSession (actions : List Action) := actions.map fun a => Event.mk p.made a
    p.acquire.2.shelf = p.shelf ∧
      ((f.isOutage || f.isRefusal) = true →
        (∃ reported, p.acquire.1 = .error reported ∧ reported.deniesSession = true ∧
          reported.cause? = some f) ∧
        p.acquire.2.network = p.network.seen ⟨onSession (done ++ [.cutOff]), []⟩) ∧
      ((f.isOutage || f.isRefusal) = false →
        p.acquire.1 = .error (.fault f) ∧
        p.acquire.2.network = p.network.seen ⟨onSession done, []⟩) := by
  intro done onSession
  have htake : p.shelf.take = .ok (none, p.shelf) := Shelf.take_eq_none_iff.mpr ⟨hopen, hidle, rfl⟩
  have hacquire : p.acquire = p.dialNext := by
    rw [SessionPool.acquire, htake]
  have hrun := runSteps_of_failure hbefore action (.fault f) after
  rw [← hsteps] at hrun
  have hreport := dialFailure?_fault p.remote.host f
  cases hclass : f.isOutage || f.isRefusal with
  | true =>
    rw [hclass, if_pos rfl] at hreport
    obtain ⟨reported, hreported, hdenies, hcause⟩ := hreport
    have hdial : dial p.remote p.made p.nextScript =
        (.error reported, ⟨onSession (done ++ [.cutOff]), []⟩) := by
      simp only [dial, hrun, hreported]
      rfl
    have hnext : p.dialNext = (.error reported, { p with
        made := p.made + 1, network := p.network.seen ⟨onSession (done ++ [.cutOff]), []⟩ }) := by
      rw [SessionPool.nextScript] at hdial
      simp only [SessionPool.dialNext, hdial]
    rw [hacquire, hnext]
    exact ⟨rfl, fun _ => ⟨⟨reported, rfl, hdenies, hcause⟩, rfl⟩, fun hnot => absurd hnot (by decide)⟩
  | false =>
    rw [hclass, if_neg Bool.false_ne_true] at hreport
    have hdial : dial p.remote p.made p.nextScript = (.error (.fault f), ⟨onSession done, []⟩) := by
      simp only [dial, hrun, hreport]
      rfl
    have hnext : p.dialNext = (.error (.fault f), { p with
        made := p.made + 1, network := p.network.seen ⟨onSession done, []⟩ }) := by
      rw [SessionPool.nextScript] at hdial
      simp only [SessionPool.dialNext, hdial]
    rw [hacquire, hnext]
    exact ⟨rfl, fun hnot => absurd hnot (by decide), fun _ => ⟨rfl, rfl⟩⟩

/-- A server that refuses the login. -/
def refusedLogin : Script where
  login := some (.fault (.session .permanent "530 not you"))

/-- A server that does not speak the protocol. -/
def foreignServer : Script where
  connecting := some (.fault (.session .malformed "SSH-2.0-x"))

/-- A server whose session fails in no way that has a name of its own. -/
def unnamedFailure : Script where
  login := some (.fault (.session .general "out of order"))

/-- A pool of secured sessions. -/
def securing (scripts : List Script) : SessionPool where
  remote := { name := .text "files", type := .text "ftp", host := .text "server", tls := .truth true }
  scripts := scripts

theorem dial_failure_refused_login :
    ∃ reported : Failure, (securing [refusedLogin]).acquire.1 = .error reported ∧
      reported.deniesSession = true ∧
      (securing [refusedLogin]).acquire.2.network.trace.events =
        [⟨0, .create true⟩, ⟨0, .connect (.text "server") (.whole 21) (securing []).remote.timeout⟩,
          ⟨0, .secure⟩, ⟨0, .login (.text "anonymous") (.text "anonymous@")⟩, ⟨0, .cutOff⟩] := by
  have hsteps : dialSteps (securing [refusedLogin]).remote refusedLogin =
      [(.connect (.text "server") (.whole 21) (securing []).remote.timeout, none), (.secure, none)] ++
        (.login (.text "anonymous") (.text "anonymous@"),
          some (.fault (.session .permanent "530 not you"))) :: [(.protect, none)] := rfl
  obtain ⟨-, hrefused, -⟩ := dial_failure (p := securing [refusedLogin]) rfl rfl hsteps (by simp)
  obtain ⟨⟨reported, hreported, hdenies, -⟩, hnetwork⟩ := hrefused rfl
  refine ⟨reported, hreported, hdenies, ?_⟩
  rw [hnetwork]
  rfl

/-- That a server does not speak the protocol reaches the caller as it is, and so does a failure
without a name of its own; neither session is cut off. -/
theorem dial_failure_unreported :
    (securing [foreignServer]).acquire.1 = .error (.fault (.session .malformed "SSH-2.0-x")) ∧
      (∀ e ∈ (securing [foreignServer]).acquire.2.network.trace.events, e.action ≠ .cutOff) ∧
      (securing [unnamedFailure]).acquire.1 =
        .error (.fault (.session .general "out of order")) ∧
      (∀ e ∈ (securing [unnamedFailure]).acquire.2.network.trace.events, e.action ≠ .cutOff) := by
  refine ⟨rfl, ?_, rfl, ?_⟩
  · have hevents : (securing [foreignServer]).acquire.2.network.trace.events =
        [⟨0, .create true⟩,
          ⟨0, .connect (.text "server") (.whole 21) (securing []).remote.timeout⟩] := rfl
    simp [hevents]
  · have hevents : (securing [unnamedFailure]).acquire.2.network.trace.events =
        [⟨0, .create true⟩, ⟨0, .connect (.text "server") (.whole 21) (securing []).remote.timeout⟩,
          ⟨0, .secure⟩, ⟨0, .login (.text "anonymous") (.text "anonymous@")⟩] := rfl
    simp [hevents]

end Pool
end FileTransfer
