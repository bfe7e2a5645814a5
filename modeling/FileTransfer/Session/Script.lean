import FileTransfer.Reply.Reader
import FileTransfer.Session.Event

/-!
# Scripts

What the other side of a connection does, laid down in advance: the client meets the same answers
and failures whenever it does the same things.

* `Transfer`: what happens on one data channel.
* `Script`: what happens on one connection.
-/

namespace FileTransfer.Session
open FileTransfer.Text
set_option autoImplicit false

/-- What happens on one data channel. Each failure, where there is one, meets the step it is named
for; the content comes as lines or as pieces of bytes, and may be broken off. -/
structure Transfer where
  opening : Option Failure := none
  connecting : Option Failure := none
  securing : Option Failure := none
  openingReader : Option Failure := none
  lines : List String := []
  pieces : List (List UInt8) := []
  breaking : Option Failure := none
  closingReader : Option Failure := none
  unsecuring : Option Failure := none
  closing : Option Failure := none
  deriving DecidableEq, Repr

/-- What happens on one connection. The lists are used up from the front. -/
structure Script where
  /-- The lines to be read, with failures in their places. -/
  replies : List Reply.Incoming := []
  /-- What becomes of each line sent; later lines are sent well. -/
  sends : List (Option Failure) := []
  transfers : List Transfer := []
  connecting : Option Failure := none
  securing : Option Failure := none
  login : Option Failure := none
  protecting : Option Failure := none
  /-- Whether data channels stay unsecured after all. -/
  stayClear : Bool := false
  quitting : Option Failure := none
  encoding : Encoding := .utf8

/-- The script of a session for which none is left: the server does not listen. -/
def Script.refused : Script where
  connecting := some (.fault (.system .connectionRefused "no more sessions"))

def outcome (failure? : Option Failure) : Except Failure Unit :=
  match failure? with
  | none => .ok ()
  | some failure => .error failure

end FileTransfer.Session
