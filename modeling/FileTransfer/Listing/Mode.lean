/-!
# Modes

The mode of an entry: its permission bits, and bits for the kind of thing it is.

* `Mode`, `Mode.ofInt`: a mode is an unsigned number of 32 bits.
* `Mode.permissions`, `Mode.isDirectory`: its parts.
* `Mode.column`: the ten characters of a listing row.
-/

namespace FileTransfer.Listing
set_option autoImplicit false

/-- Permission bits and kind bits of an entry, as one number below `2 ^ 32`. -/
abbrev Mode := Nat

namespace Mode

inductive Fault where
  | negative
  | wide
  | huge
  deriving DecidableEq, Repr

def Fault.message : Fault → String
  | .negative => "can't convert negative value to unsigned int"
  | .wide => "mode out of range"
  | .huge => "Python int too large to convert to C unsigned long"

def ofInt (n : Int) : Except Fault Mode :=
  if n < 0 then .error .negative
  else if n < 0x100000000 then .ok n.toNat
  else if n < 0x10000000000000000 then .error .wide
  else .error .huge

def permissionBits : Nat := 0o7777

def kindBits : Nat := 0o170000

def directory : Nat := 0o040000

def permissions (m : Mode) : Nat := m &&& permissionBits

def isDirectory (m : Mode) : Bool := m &&& kindBits = directory

def has (m : Mode) (i : Nat) : Bool := m.testBit i

/-- The letter for the kind bits; a question mark when they name no kind. -/
def kindLetter (m : Mode) : Char :=
  let kind := m &&& kindBits
  if kind = 0o100000 then '-'
  else if kind = directory then 'd'
  else if kind = 0o120000 then 'l'
  else if kind = 0o060000 then 'b'
  else if kind = 0o020000 then 'c'
  else if kind = 0o010000 then 'p'
  else if kind = 0o140000 then 's'
  else '?'

/-- The three letters of one class of users, whose bits start at `shift`. The last letter also shows
the special bit `special`: `both` when execution is allowed too, `alone` when it is not. -/
def classLetters (m : Mode) (shift special : Nat) (both alone : Char) : List Char :=
  let execute :=
    if m.has special then (if m.has shift then both else alone)
    else if m.has shift then 'x' else '-'
  [if m.has (shift + 2) then 'r' else '-', if m.has (shift + 1) then 'w' else '-', execute]

def permissionLetters (m : Mode) : List Char :=
  m.classLetters 6 11 's' 'S' ++ m.classLetters 3 10 's' 'S' ++ m.classLetters 0 9 't' 'T'

/-- The ten characters that a listing row shows for a mode. -/
def column (m : Mode) : List Char := m.kindLetter :: m.permissionLetters

end Mode
end FileTransfer.Listing
