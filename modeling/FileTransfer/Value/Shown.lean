import FileTransfer.Number.Written
import FileTransfer.Text.Quoted
import FileTransfer.Value.Basic

/-!
# Values in messages

* `Value.shown`: a value on its own; a text stands as it is.
* `Value.quoted`: a value inside a list or table; a text stands between quote marks.
* `Value.isTooLong`: a whole number that is not shown at all.
-/

namespace FileTransfer
open FileTransfer.Text FileTransfer.Number FileTransfer.Calendar
set_option autoImplicit false

/-- An offset from universal time as `+hh:mm`. -/
def Moment.offsetShown (minutes : Int) : String :=
  String.ofList ((if minutes < 0 then '-' else '+') ::
    decimal 2 (minutes.natAbs / 60) ++ ':' :: decimal 2 (minutes.natAbs % 60))

def Moment.shown : Moment → String
  | .day date => date.dashed
  | .clock time => time.fractional
  | .instant date time offset =>
    date.dashed ++ " " ++ time.fractional ++ (offset.map Moment.offsetShown).getD ""

/-- Numbers of a parenthesised list. -/
def Moment.fields (ns : List Nat) : String := joined ", " (ns.map toString)

/-- Seconds and microseconds, without those at the end that are zero. -/
def Moment.smallFields (t : TimeOfDay) : List Nat :=
  if t.micro != 0 then [t.second, t.micro] else if t.second != 0 then [t.second] else []

/-- An offset inside a quotation: whole days down, then seconds up. -/
def Moment.offsetQuoted (minutes : Int) : String :=
  if minutes = 0 then "datetime.timezone.utc"
  else
    let seconds := s!"seconds={(minutes * 60) % 86400}"
    let days := if minutes < 0 then "days=-1, " else ""
    s!"datetime.timezone(datetime.timedelta({days}{seconds}))"

def Moment.quoted : Moment → String
  | .day d => s!"datetime.date({Moment.fields [d.year, d.month, d.day]})"
  | .clock t => s!"datetime.time({Moment.fields ([t.hour, t.minute] ++ Moment.smallFields t)})"
  | .instant d t offset =>
    let fields := Moment.fields ([d.year, d.month, d.day, t.hour, t.minute] ++ Moment.smallFields t)
    let zone := (offset.map fun m => ", tzinfo=" ++ Moment.offsetQuoted m).getD ""
    s!"datetime.datetime({fields}{zone})"

namespace Value

mutual

def quoted : Value → String
  | .null => "None"
  | .truth value => if value then "True" else "False"
  | .whole value => toString value
  | .real value => value.written Layout.plain
  | .text value => Text.quoted value
  | .moment value => value.quoted
  | .list items => "[" ++ joined ", " (quotedItems items) ++ "]"
  | .table entries => "\x7b" ++ joined ", " (quotedEntries entries) ++ "\x7d"

def quotedItems : List Value → List String
  | [] => []
  | v :: vs => quoted v :: quotedItems vs

def quotedEntries : List (String × Value) → List String
  | [] => []
  | (k, v) :: es => (Text.quoted k ++ ": " ++ quoted v) :: quotedEntries es

end

def shown : Value → String
  | .text value => value
  | .moment value => value.shown
  | v => v.quoted

/-- Whether a value is a whole number of more digits than a numeral may have. -/
def isTooLong : Value → Bool
  | .whole n => Nat.pow 10 longestNumeral ≤ n.natAbs
  | _ => false

end Value
end FileTransfer
