import FileTransfer.Calendar.Timestamp
import FileTransfer.Listing.Mode
import FileTransfer.Text.Split

/-!
# Entries of a listing

What is known of one remote file or directory, and the row that shows it.

* `Entry`: name, size, mode, time of last change, and the line it was read from.
* `Entry.kind`, `Entry.permissions`: what its mode says.
* `Entry.row`: a row in the manner of a long directory listing.
-/

namespace FileTransfer.Listing
open FileTransfer.Calendar FileTransfer.Text
set_option autoImplicit false

structure Entry where
  name : String
  size : Int
  mode : Mode
  modified : Timestamp
  /-- The fact line that told all this. -/
  raw : String
  deriving DecidableEq, Repr

/-- A file is whatever is no directory. -/
inductive Kind where
  | file | directory
  deriving DecidableEq, Repr

def Kind.label : Kind → String
  | .file => "FILE"
  | .directory => "DIRECTORY"

namespace Entry

def isDirectory (e : Entry) : Bool := e.mode.isDirectory

def kind (e : Entry) : Kind := if e.isDirectory then .directory else .file

def permissions (e : Entry) : Nat := e.mode.permissions

def caption (e : Entry) : String := s!"FileType.{e.kind.label} {e.name}"

/-- A text moved to the right end of a column of `width` characters; a longer one stands as it
is. -/
def rightAligned (width : Nat) (s : List Char) : List Char :=
  List.replicate (width - s.length) ' ' ++ s

/-- The row of an entry: mode, size in twelve columns, time to the second, name. -/
def row (e : Entry) : String :=
  String.ofList (e.mode.column ++ ' ' :: rightAligned 12 (toString e.size).toList ++ [' ']) ++
    e.modified.column ++ " " ++ e.name

end Entry
end FileTransfer.Listing
