import FileTransfer.Calendar.Date
import FileTransfer.Number.Binary64

/-!
# Settings values

What a settings file can hold: nothing, truth values, numbers, text, dates and times, lists, and
tables in the order of their keys' first appearance.

* `Moment`, `Value`: the values.
* `Value.integer?`: the whole number of a value; a truth value counts as 0 or 1.
* `Value.isBlank`: nothing, false, zero, and whatever is empty.
* `Value.lookup?`, `Value.put`: the value of a table under a key.
-/

namespace FileTransfer
open FileTransfer.Calendar FileTransfer.Number
set_option autoImplicit false

/-- A date, a time of day, or both; with both there may be an offset from universal time, in
minutes. -/
inductive Moment where
  | day (date : Date)
  | clock (time : TimeOfDay)
  | instant (date : Date) (time : TimeOfDay) (offset : Option Int)
  deriving DecidableEq, Repr

inductive Value where
  | null
  | truth (value : Bool)
  | whole (value : Int)
  | real (value : Binary64)
  | text (value : String)
  | moment (value : Moment)
  | list (items : List Value)
  | table (entries : List (String × Value))
  deriving Repr, Inhabited

namespace Value

/-- The kinds of values, as far as rules tell them apart. -/
inductive Kind where
  | null | truth | whole | real | text | day | clock | instant | list | table
  deriving DecidableEq, Repr

def kind : Value → Kind
  | .null => .null
  | .truth _ => .truth
  | .whole _ => .whole
  | .real _ => .real
  | .text _ => .text
  | .moment (.day _) => .day
  | .moment (.clock _) => .clock
  | .moment (.instant ..) => .instant
  | .list _ => .list
  | .table _ => .table

def Kind.label : Kind → String
  | .null => "NoneType"
  | .truth => "bool"
  | .whole => "int"
  | .real => "float"
  | .text => "str"
  | .day => "datetime.date"
  | .clock => "datetime.time"
  | .instant => "datetime.datetime"
  | .list => "list"
  | .table => "dict"

/-- The whole number of a value; a truth value counts as 0 or 1. -/
def integer? : Value → Option Int
  | .truth value => some (if value then 1 else 0)
  | .whole value => some value
  | _ => none

/-- Whether a value is nothing, false, zero or empty. -/
def isBlank : Value → Bool
  | .null => true
  | .truth value => !value
  | .whole value => value = 0
  | .real value => value.isZero
  | .text value => value.isEmpty
  | .moment _ => false
  | .list items => items.isEmpty
  | .table entries => entries.isEmpty

def lookup? (key : String) (entries : List (String × Value)) : Option Value :=
  (entries.find? (·.1 = key)).map (·.2)

/-- The entries with the value of a key replaced, or the key added at the end. -/
def put (key : String) (value : Value) : List (String × Value) → List (String × Value)
  | [] => [(key, value)]
  | (k, v) :: es => if k = key then (k, value) :: es else (k, v) :: put key value es

/-- The table of some entries: of several with one key the last counts, at the place of the
first. -/
def tableOf (pairs : List (String × Value)) : List (String × Value) :=
  pairs.foldl (fun es (k, v) => put k v es) []

end Value
end FileTransfer
