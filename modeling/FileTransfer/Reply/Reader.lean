import FileTransfer.Reply.Line

/-!
# Replies

A reply is one line, or several: the first ends its code with a hyphen, and the reply goes on up to
a line that starts with the same code and a space, or is that code alone.

* `Reply`: the code, the lines as they came, and their text.
* `Reader`, `Reader.feed`: what is known of a reply between two of its lines.
* `Incoming`, `Reader.run`: reading a reply off the lines still to come.
-/

namespace FileTransfer
open FileTransfer.Text
set_option autoImplicit false

/-- A complete reply. The message is the text of the lines without code and separator, a line inside
that does not repeat the code being text altogether. -/
structure Reply where
  code : Nat
  message : String
  lines : List String
  deriving DecidableEq, Repr

namespace Reply

/-- A line to come on a control connection, or the failure that comes in its place. -/
abbrev Incoming := Except Failure String

/-- A text that starts with a code and another character. -/
def startsWith (code : Nat) (mark : Char) (line : List Char) : Bool :=
  (decimal 3 code ++ [mark]).isPrefixOf line

def closes (code : Nat) (line : List Char) : Bool :=
  startsWith code ' ' line || line = decimal 3 code

/-- The text of a line after the first. -/
def lineText (code : Nat) (line : List Char) : List Char :=
  if closes code line || startsWith code '-' line then line.drop 4 else line

/-- What is known of a reply between two of its lines. -/
inductive Reader where
  /-- Nothing yet. -/
  | opening
  /-- The code of a reply of several lines, its lines so far, and their texts. -/
  | inside (code : Nat) (lines texts : List String)
  deriving DecidableEq, Repr

/-- What one more line makes of a reader. -/
inductive Progress where
  | more (reader : Reader)
  | complete (reply : Reply)
  | failed (failure : Failure)
  deriving DecidableEq, Repr

namespace Reader

def feed : Reader → String → Progress
  | .opening, line =>
    match OpeningLine.read line with
    | .error failure => .failed failure
    | .ok o =>
      let text := String.ofList o.text
      if o.separator = .hyphen then .more (.inside o.code [line] [text])
      else .complete ⟨o.code, text, [line]⟩
  | .inside code lines texts, line =>
    let lines := lines ++ [line]
    let texts := texts ++ [String.ofList (lineText code line.toList)]
    if closes code line.toList then .complete ⟨code, joined "\n" texts, lines⟩
    else .more (.inside code lines texts)

/-- The failure of a connection that has nothing more to say. -/
def exhausted : Failure := .fault (.endOfData "")

end Reader

/-- A reply read off the lines to come: the outcome, what was read for it, and what is left. -/
structure Reading where
  outcome : Except Failure Reply
  seen : List Incoming
  rest : List Incoming

/-- Reads lines until the reply is complete, or cannot be. -/
def Reader.run : Reader → List Incoming → Reading
  | _, [] => ⟨.error exhausted, [.error exhausted], []⟩
  | _, .error failure :: rest => ⟨.error failure, [.error failure], rest⟩
  | reader, .ok line :: rest =>
    match reader.feed line with
    | .failed failure => ⟨.error failure, [.ok line], rest⟩
    | .complete reply => ⟨.ok reply, [.ok line], rest⟩
    | .more reader' =>
      let later := run reader' rest
      { later with seen := .ok line :: later.seen }

def read (lines : List Incoming) : Reading := Reader.opening.run lines

end Reply
end FileTransfer
