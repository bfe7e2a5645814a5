import FileTransfer.Session.Connection
import FileTransfer.Settings.Remote

/-!
# Dialling

Setting up a session with a remote: connecting, logging in, and securing both where that is wanted;
and its end.

* `dialSteps`: the steps, each with its failure if it has one.
* `dialFailure?`: which failures to set up a session are reported as such.
* `dial`: a connection, or the failure.
* `hangUp`: the end of a session.
-/

namespace FileTransfer.Pool
open FileTransfer.Session FileTransfer.Settings
set_option autoImplicit false

def wantsSecurity (r : Remote) : Bool := !r.tls.isBlank

def dialSteps (r : Remote) (s : Script) : List (Action × Option Failure) :=
  let secured (steps : List (Action × Option Failure)) := if wantsSecurity r then steps else []
  [(.connect r.host r.port r.timeout, s.connecting)] ++ secured [(.secure, s.securing)] ++
    [(.login r.username r.password, s.login)] ++ secured [(.protect, s.protecting)]

/-- The steps done up to the first that fails, and its failure. -/
def runSteps : List (Action × Option Failure) → List Action × Option Failure
  | [] => ([], none)
  | (action, some failure) :: _ => ([action], some failure)
  | (action, none) :: steps =>
    let (actions, failure?) := runSteps steps
    (action :: actions, failure?)

def holds (part s : List Char) : Bool := (Text.cut part s).isSome

def loginRefused : List Char := "530".toList

/-- What is reported when a session could not be set up: that the server refused the login, that it
refused something else, or that it was out of reach. Other failures are not reported as such. -/
def dialFailure? (host : Value) (failure : Failure) : Option Failure :=
  match failure with
  | .fault f =>
    if f.isOutage then some (.unreachable host.shown f)
    else if f.isRefusal then
      match f with
      | .session .permanent text =>
        if holds loginRefused text.toList then some (.notAuthenticated f)
        else some (.sessionRefused f)
      | _ => some (.sessionRefused f)
    else none
  | _ => none

/-- The connection of a session that was set up. -/
def dialled (r : Remote) (id : Id) (s : Script) : Connection where
  id := id
  carrier := .session {
    host := r.host
    timeout := r.timeout
    secureData := wantsSecurity r && !s.stayClear
    encoding := s.encoding
    quitting := s.quitting }
  replies := s.replies
  sends := s.sends
  transfers := s.transfers

def portShown (port : Value) : String :=
  match Template.wholeText port with
  | .ok digits => String.ofList digits
  | .error _ => port.shown

/-- Sets up session number `id` with a remote. A session whose failure is reported is cut off. -/
def dial (r : Remote) (id : Id) (s : Script) : Except Failure Connection × Trace :=
  let (actions, failure?) := runSteps (dialSteps r s)
  let events (actions : List Action) : List Event := actions.map fun a => ⟨id, a⟩
  let actions := .create (wantsSecurity r) :: actions
  match failure? with
  | none =>
    let note := s!"connected to {r.host.shown}:{portShown r.port}"
    (.ok (dialled r id s), ⟨events (actions ++ [.passive true]), [note]⟩)
  | some failure =>
    match dialFailure? r.host failure with
    | some reported => (.error reported, ⟨events (actions ++ [.cutOff]), []⟩)
    | none => (.error failure, ⟨events actions, []⟩)

/-- Whether a session that could not take its leave is cut off instead. -/
def cutsOff (failure : Failure) : Bool := failure.isFault fun f => f.isRefusal || f.isOutage

def hangUp (c : Connection) : Except Failure Unit × Trace :=
  match c.carrier with
  | .direct => (.ok (), {})
  | .session info =>
    match info.quitting with
    | none => (.ok (), ⟨[c.event .quit], []⟩)
    | some failure =>
      if cutsOff failure then (.ok (), ⟨[c.event .quit, c.event .cutOff], []⟩)
      else (.error failure, ⟨[c.event .quit], []⟩)

end FileTransfer.Pool
