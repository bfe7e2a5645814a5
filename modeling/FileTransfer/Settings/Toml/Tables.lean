import FileTransfer.Settings.Toml.Text
import FileTransfer.Value.Basic

/-!
# TOML: tables under construction

A document fills one table step by step. Which steps are allowed depends on how a table came about.

* `Entries`: a table as its entries in order.
* `Entries.update`: a change to the table under a key, made where it is missing.
* `Entries.insert`, `Entries.append`: a value under a key; one more table of an array.
* `Claims`: the keys that may not be opened again, or not be changed.
-/

namespace FileTransfer.Toml
set_option autoImplicit false

/-- A table as its entries, in the order in which their keys appeared. -/
abbrev Entries := List (String × Value)

namespace Entries

/-- The last of several values, and those before it. -/
def unsnoc? (vs : List Value) : Option (List Value × Value) :=
  vs.getLast?.map fun v => (vs.dropLast, v)

/-- Changes the table under a key, making the tables on the way. Where an array of tables stands on
the way and `throughArrays` is set, its last table is meant. -/
def update (throughArrays : Bool) (change : Entries → Except Flaw Entries) :
    Key → Entries → Except Flaw Entries
  | [], es => change es
  | name :: key, es =>
    match Value.lookup? name es with
    | none => do return Value.put name (.table (← update throughArrays change key [])) es
    | some (.table inner) => do
      return Value.put name (.table (← update throughArrays change key inner)) es
    | some (.list items) =>
      match throughArrays, unsnoc? items with
      | true, some (front, .table inner) => do
        let last ← update throughArrays change key inner
        return Value.put name (.list (front ++ [.table last])) es
      | _, _ => .error .malformed
    | some _ => .error .malformed

/-- Adds a value under a new name of the table under a key. -/
def insert (throughArrays : Bool) (key : Key) (name : String) (value : Value) (es : Entries) :
    Except Flaw Entries :=
  update throughArrays
    (fun table =>
      if (Value.lookup? name table).isSome then .error .malformed
      else .ok (Value.put name value table))
    key es

def ensure (key : Key) (es : Entries) : Except Flaw Entries := update true .ok key es

/-- Adds an empty table to the array of tables under a key, which is made where it is missing. -/
def append (key : Key) (name : String) (es : Entries) : Except Flaw Entries :=
  update true
    (fun table =>
      match Value.lookup? name table with
      | none => .ok (Value.put name (.list [.table []]) table)
      | some (.list items) => .ok (Value.put name (.list (items ++ [.table []])) table)
      | some _ => .error .malformed)
    key es

end Entries

/-- What has been laid down about keys so far. -/
structure Claims where
  /-- Tables that may not be opened by a header again. -/
  opened : List Key := []
  /-- Values written out in one place; nothing under them may change. -/
  closed : List Key := []
  /-- Tables made by dotted keys since the last header; the next header closes them to headers. -/
  dotted : List Key := []

namespace Claims

/-- Whether a header may not open the table of a key again. -/
def isOpened (c : Claims) (key : Key) : Bool := c.opened.contains key

/-- Whether a key lies at or under a value written out in one place. -/
def isClosed (c : Claims) (key : Key) : Bool := c.closed.any (·.isPrefixOf key)

def atHeader (c : Claims) : Claims := { c with opened := c.dotted ++ c.opened, dotted := [] }

def markOpened (c : Claims) (key : Key) : Claims := { c with opened := key :: c.opened }

def close (c : Claims) (key : Key) : Claims := { c with closed := key :: c.closed }

/-- A new table of an array stands under a key: what was laid down about the one before is void. -/
def renew (c : Claims) (key : Key) : Claims :=
  { c with
    opened := c.opened.filter fun k => !key.isPrefixOf k
    closed := c.closed.filter fun k => !key.isPrefixOf k }

end Claims
end FileTransfer.Toml
