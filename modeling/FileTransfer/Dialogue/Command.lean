import FileTransfer.Dialogue.Basic
import FileTransfer.Value.Template

/-!
# Commands

A command is one line, answered by one reply.

* `censored`: a command line as it may be shown; passwords may not.
* `Dialogue.command`: sends a line without line breaks and reads its reply.
* `Expected`, `Dialogue.expect`: a command whose reply has to have a certain code.
-/

namespace FileTransfer
open FileTransfer.Text FileTransfer.Reply
set_option autoImplicit false

/-- The upper-case form of a character, as far as it can be part of the word for a password: no
other character outside ASCII has an upper-case form of such letters. -/
def upperCase (c : Char) : List Char :=
  if c = 'ſ' then ['S'] else if c = 'ß' then ['S', 'S'] else [c.toUpper]

/-- The word, in any case, after which a command line is a password. -/
def passwordWord : List Char := "PASS ".toList

/-- Whether a command line gives a password: its first five characters in upper case are the
word. -/
def givesPassword (line : String) : Bool := (line.toList.take 5).flatMap upperCase = passwordWord

/-- A command line as it may be shown. -/
def censored (line : String) : String := if givesPassword line then "PASS ******" else line

/-- Whether a text would be more than one line. -/
def hasLineBreak (line : String) : Bool := line.toList.any fun c => c = '\r' || c = '\n'

/-- What the reply to a command has to be. -/
inductive Expected where
  | category (category : Category)
  | code (code : Int)
  deriving DecidableEq, Repr

def Expected.admits (e : Expected) (code : Nat) : Except Failure Bool :=
  match e with
  | .code c => .ok (c = code)
  | .category c =>
    match Category.ofCode? code with
    | some c' => .ok (c' = c)
    | none => Failure.ofFault (.codeOutOfRange code)

namespace Dialogue

/-- Sends a command line and reads its reply. A line with a line break is not sent. -/
def command (line : String) : Dialogue Reply :=
  if hasLineBreak line then fail (.fault .lineBreak)
  else do
    say s!"sending command {censored line}"
    sendLine line
    reply

def wrongReply {α : Type} (line : String) (r : Reply) : Dialogue α :=
  fail (.protocol r.code r.message (some line) none)

/-- Sends a command line; the reply has to be as expected. -/
def expect (e : Expected) (line : String) : Dialogue Unit := do
  let r ← command line
  let admitted ← .done (e.admits r.code)
  if admitted then pure () else wrongReply (censored line) r

def filled (template : String) (arguments : List Value) : Dialogue String :=
  match Template.fill template arguments with
  | .ok line => pure line
  | .error reason => fail (.fault (.template reason))

end Dialogue
end FileTransfer
