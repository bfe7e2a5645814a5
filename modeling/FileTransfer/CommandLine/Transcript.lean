import FileTransfer.Session.Script
import FileTransfer.Text.Split

/-!
# Transcripts

The remote's side of sessions, written down one thing a line.

* `Mark`: what a line of a transcript says.
* `Transcript.extend?`: the scripts of a transcript with one more line.
* `Transcript.read`: the scripts of all lines, or the number of the first that makes no sense.
-/

namespace FileTransfer.CommandLine
open FileTransfer.Session FileTransfer.Text
set_option autoImplicit false

inductive Mark where
  /-- A session begins: `session`. -/
  | session
  /-- A data channel of the session opens: `channel`. -/
  | channel
  /-- A line comes on the control channel: it stands behind `<`. -/
  | reply (line : String)
  /-- A line comes on the data channel opened last: it stands behind `=`. -/
  | content (line : String)
  deriving DecidableEq, Repr

/-- What a line says, if it says anything. -/
def Mark.ofLine? (line : String) : Option Mark :=
  match line.toList with
  | '<' :: text => some (.reply (String.ofList text))
  | '=' :: text => some (.content (String.ofList text))
  | _ =>
    if line = "session" then some .session
    else if line = "channel" then some .channel
    else none

/-- A line as it comes on a data channel, with its end. -/
def wire (line : String) : List UInt8 := line.toUTF8.toList ++ [13, 10]

namespace Transcript

/-- The last of a list, changed; nothing for an empty list. -/
def changeLast? {α : Type} (f : α → Option α) : List α → Option (List α)
  | [] => none
  | [a] => (f a).map fun a' => [a']
  | a :: as => (changeLast? f as).map (a :: ·)

def addContent? (line : String) (script : Script) : Option Script :=
  let add (t : Transfer) : Option Transfer := some { t with pieces := t.pieces ++ [wire line] }
  (changeLast? add script.transfers).map fun transfers => { script with transfers }

/-- The scripts of a transcript with one more line. All but the beginning of a session belongs to
the session begun last, and content to the data channel opened last. -/
def extend? (scripts : List Script) : Mark → Option (List Script)
  | .session => some (scripts ++ [{}])
  | .channel => changeLast? (fun s => some { s with transfers := s.transfers ++ [{}] }) scripts
  | .reply line => changeLast? (fun s => some { s with replies := s.replies ++ [.ok line] }) scripts
  | .content line => changeLast? (addContent? line) scripts

/-- The scripts of a transcript continued by the lines from a number on. -/
def readFrom (number : Nat) (scripts : List Script) : List String → Except Nat (List Script)
  | [] => .ok scripts
  | line :: lines =>
    match (Mark.ofLine? line).bind (extend? scripts) with
    | some scripts => readFrom (number + 1) scripts lines
    | none => .error number

/-- The lines of a text, without their ends; what stands behind the last end is a line only if it is
not empty. -/
def linesOf (text : String) : List String :=
  let lines := pieces '\n' text.toList
  (if lines.getLast? = some [] then lines.dropLast else lines).map String.ofList

/-- The scripts of the text of a transcript, or the number of the first line that makes no sense. -/
def read (text : String) : Except Nat (List Script) := readFrom 1 [] (linesOf text)

end Transcript
end FileTransfer.CommandLine
