import FileTransfer.Text.Lines
import FileTransfer.Value.Basic

/-!
# Events

What can be seen of a client from outside: what it does to its connections, in order, and the notes
it leaves.

* `Event`: one thing done to one connection.
* `Trace`: events and notes of a stretch of time.
-/

namespace FileTransfer.Session
open FileTransfer.Text
set_option autoImplicit false

/-- The number of a connection. -/
abbrev Id := Nat

inductive Action where
  | acquire
  | release
  | send (line : String)
  /-- A line is read from the control channel; nothing, where reading failed. -/
  | read (line : Option String)
  | openData
  | closeData
  | create (secure : Bool)
  | connect (host port timeout : Value)
  | secure
  | login (user password : Value)
  | protect
  /-- Data channels are opened from this side. -/
  | passive (on : Bool)
  /-- The server is asked for a data channel. -/
  | askPassive
  | connectData (host : String) (port : Nat) (timeout : Value)
  | wrap (host : Value)
  | openReader (encoding : Encoding)
  | closeReader
  | unwrap
  | closeSocket
  | quit
  | cutOff

structure Event where
  connection : Id
  action : Action

/-- Events and notes of a stretch of time, oldest first. -/
structure Trace where
  events : List Event := []
  notes : List String := []
  deriving Inhabited

/-- One stretch of time after another. -/
instance : Append Trace where
  append a b := ⟨a.events ++ b.events, a.notes ++ b.notes⟩

end FileTransfer.Session
