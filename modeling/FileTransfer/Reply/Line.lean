import FileTransfer.Failure
import FileTransfer.Reply.Code

/-!
# Reply lines

The line that opens a reply: a code, a separator, and text.

* `Separator`: whether more lines follow.
* `OpeningLine`, `OpeningLine.read?`: the parts of an opening line, and which lines open a reply.
* `OpeningLine.written`: the line of its parts.
* `DirectoryName.read?`: the path that a reply quotes.
-/

namespace FileTransfer.Reply
open FileTransfer.Text
set_option autoImplicit false

/-- What stands after the code. -/
inductive Separator where
  /-- The line is the code alone. -/
  | bare
  /-- A space: the reply has this one line. -/
  | space
  /-- A hyphen: the reply goes on. -/
  | hyphen
  deriving DecidableEq, Repr

def Separator.text : Separator → List Char
  | .bare => []
  | .space => [' ']
  | .hyphen => ['-']

structure OpeningLine where
  code : Nat
  separator : Separator
  text : List Char
  deriving DecidableEq, Repr

namespace OpeningLine

/-- The separator and text after the digits of the code. -/
def readTail? : List Char → Option (Separator × List Char)
  | [] => some (.bare, [])
  | c :: text =>
    if c = ' ' then some (.space, text) else if c = '-' then some (.hyphen, text) else none

/-- The parts of a line. A line opens a reply when it starts with three ASCII digits, the first of
them from 1 to 5, and then ends or goes on with a space or a hyphen. -/
def read? (line : List Char) : Option OpeningLine := do
  let digits := line.take 3
  let (separator, text) ← readTail? (line.drop 3)
  if digits.length = 3 ∧ isNumeral 10 digits ∧ '1' ≤ digits.headD '0' ∧ digits.headD '0' ≤ '5' then
    some ⟨numeralValue 10 digits, separator, text⟩
  else none

def written (o : OpeningLine) : List Char := decimal 3 o.code ++ o.separator.text ++ o.text

/-- The parts of a line, or the failure of a line that opens no reply. -/
def read (line : String) : Except Failure OpeningLine :=
  match read? line.toList with
  | some o => .ok o
  | none => .error (.undecodable (.replyLine line))

end OpeningLine

/-! ## Quoted paths -/

namespace DirectoryName

/-- A pair of double quotes inside the quotation stands for one. -/
def unescaped (s : List Char) : List Char := contract doubleQuote doubleQuote doubleQuote s

/-- The path in a text: what stands between the first and the last double quote. -/
def read? (text : List Char) : Option (List Char) := do
  let (_, after) ← cut [doubleQuote] text
  match after.reverse.dropWhile (· ≠ doubleQuote) with
  | [] => none
  | _ :: backwards => some (unescaped backwards.reverse)

/-- The path that a reply quotes, or the failure of a reply that quotes none. -/
def read (message : String) : Except Failure String :=
  match read? message.toList with
  | some name => .ok (String.ofList name)
  | none => .error (.undecodable (.directoryName message))

/-- A path between double quotes, with each of its own written twice. -/
def written (name : List Char) : List Char :=
  doubleQuote :: (name.flatMap fun c => if c = doubleQuote then [c, c] else [c]) ++ [doubleQuote]

end DirectoryName
end FileTransfer.Reply
