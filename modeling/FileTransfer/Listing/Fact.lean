import FileTransfer.Failure
import FileTransfer.Listing.Entry

/-!
# Fact lines

A machine-readable listing describes each entry in one line: facts, each a name, an equals sign and
a value, with semicolons between them; then a semicolon, a space, and the path. Names and values
are read in lower case, the last of several facts of a name counts, and an empty value is none.

* `Facts`, `Facts.read?`: the facts of the text before the path.
* `Facts.mode`, `Facts.size`, `Facts.modified?`: what the facts say.
* `baseName`: the last segment of a path.
* `Entry.read`: the entry of a fact line, or the failure of a line that cannot be decoded.
* `Entry.factLine`: a fact line that says all that is known of an entry.
-/

namespace FileTransfer.Listing
open FileTransfer.Calendar FileTransfer.Text
set_option autoImplicit false

/-! ## Facts -/

/-- Names and values in the order in which they were given. -/
abbrev Facts := List (List Char × List Char)

namespace Facts

/-- One fact: a name that is not empty, an equals sign, and a value. Lowering ASCII letters is
enough: no other character lowers to a letter of a name or value that is looked for. -/
def readOne? (s : List Char) : Option (List Char × List Char) := do
  let (name, value) ← cut ['='] s
  if name.isEmpty then none else some (lower name, lower value)

def read? (s : List Char) : Option Facts := (pieces ';' s).mapM readOne?

/-- The value of the last fact of a name; an empty value is none. -/
def get? (facts : Facts) (name : String) : Option (List Char) :=
  match facts.reverse.find? (·.1 = name.toList) with
  | some (_, c :: cs) => some (c :: cs)
  | _ => none

/-- The types of the listed directory itself and of its parent. -/
def selfOrParent : List (List Char) :=
  ["cdir".toList, "pdir".toList, ".".toList, "..".toList]

def directoryTypes : List (List Char) := "dir".toList :: selfOrParent

def isDirectoryType (type : List Char) : Bool := directoryTypes.contains type

/-- The permission bits that one letter of a `perm` fact stands for: any right to change the entry
is the right to write, listing is reading and entering. -/
def letterBits (c : Char) : Nat :=
  if "adcfmpw".toList.contains c then 0o200
  else if c = 'l' then 0o500
  else if c = 'r' then 0o400
  else 0

/-- The union of the bits of the letters of a `perm` fact. -/
def lettersBits (letters : List Char) : Nat :=
  letters.foldl (fun bits c => bits ||| letterBits c) 0

/-- The permission bits: from the octal `unix.mode`, else from the letters of `perm`, else reading
by the owner. Kind bits of `unix.mode` do not count. -/
def permissions (facts : Facts) (malformed : Failure) : Except Failure Nat :=
  match facts.get? "unix.mode", facts.get? "perm" with
  | some digits, _ =>
    match readNumeral? 8 digits with
    | none => .error malformed
    | some n => match Mode.ofInt n with
      | .ok m => .ok m.permissions
      | .error reason => Failure.ofFault (.mode reason)
  | none, some letters => .ok (lettersBits letters)
  | none, none => .ok 0o400

/-- The digits of the size: those of `size`, or for a directory without one those of `sizd`. -/
def sizeDigits? (facts : Facts) (isDirectory : Bool) : Option (List Char) :=
  match facts.get? "size" with
  | some digits => some digits
  | none => if isDirectory then facts.get? "sizd" else none

def wholeNumber (digits : List Char) (malformed : Failure) : Except Failure Nat :=
  match readNumeral? 10 digits with
  | none => .error malformed
  | some n =>
    if digits.length ≤ longestNumeral then .ok n else Failure.ofFault (.longNumeral digits.length)

/-- The size: needed for a file, zero for anything else that does not tell. -/
def size (facts : Facts) (type : List Char) (malformed incomplete : Failure) :
    Except Failure Nat :=
  match facts.sizeDigits? (isDirectoryType type) with
  | some digits => wholeNumber digits malformed
  | none => if type = "file".toList then .error incomplete else .ok 0

def modified? (facts : Facts) : Option Timestamp := (facts.get? "modify").bind Timestamp.read?

end Facts

/-! ## Entries -/

/-- The last segment of a path, slashes at its end aside. The empty path names the directory
itself, a path of slashes the root. -/
def baseName (path : List Char) : List Char :=
  if path.isEmpty then ['.']
  else
    let stripped := dropEnd (· = '/') path
    if stripped.isEmpty then ['/'] else lastPiece '/' stripped

namespace Entry

/-- The entry that facts and a path describe. -/
def ofFacts (raw : String) (facts : Facts) (type path : List Char) : Except Failure Entry := do
  let malformed := Failure.undecodable (.malformedEntry raw)
  let incomplete := Failure.undecodable (.incompleteEntry raw)
  let permissions ← facts.permissions malformed
  let size ← facts.size type malformed incomplete
  let some modified := facts.modified? | throw incomplete
  return {
    name := String.ofList (baseName path)
    size
    mode := if Facts.isDirectoryType type then permissions ||| Mode.directory else permissions
    modified
    raw }

/-- The entry of a fact line. With `skipSelf`, the listed directory itself and its parent give
none. -/
def read (line : String) (skipSelf : Bool) : Except Failure (Option Entry) := do
  let malformed := Failure.undecodable (.malformedEntry line)
  let some (block, path) := cut [';', ' '] line.toList | throw malformed
  let some facts := Facts.read? block | throw malformed
  let some type := facts.get? "type" | throw (.undecodable (.incompleteEntry line))
  if skipSelf && Facts.selfOrParent.contains type then return none
  return some (← ofFacts line facts type path)

/-- The facts of an entry, for the path of the directory it is in. -/
def factLine (e : Entry) (directory : List Char) : List Char :=
  "type=".toList ++ (if e.isDirectory then "dir".toList else "file".toList) ++
    ";size=".toList ++ (toString e.size).toList ++
    ";modify=".toList ++ e.modified.listed ++
    ";unix.mode=".toList ++ writeNumeral 8 e.permissions ++
    "; ".toList ++ directory ++ e.name.toList

end Entry
end FileTransfer.Listing
