import FileTransfer.Calendar.Date

/-!
# Timestamps

Instants in universal time, and the form in which listings carry them: fourteen digits
`YYYYMMDDhhmmss`, optionally a point and up to six digits of a fraction.

* `Timestamp`: a date and a time of day.
* `Timestamp.ofDigits?`, `Timestamp.read?`: an instant from its digits, and from its listed form.
* `Timestamp.listed`: the listed form with all six digits of the fraction.
* `Timestamp.standard`, `Timestamp.column`: the forms shown to people.
-/

namespace FileTransfer.Calendar
open FileTransfer.Text
set_option autoImplicit false

structure Timestamp where
  date : Date
  time : TimeOfDay
  deriving DecidableEq, Repr

namespace Timestamp

/-- The value of the digits of `s` from position `start` on, `count` of them. -/
def field (s : List Char) (start count : Nat) : Nat :=
  numeralValue 10 ((s.drop start).take count)

/-- The instant named by fourteen digits and a number of microseconds. -/
def ofDigits? (digits : List Char) (micro : Nat) : Option Timestamp := do
  let date ← Date.of? (field digits 0 4) (field digits 4 2) (field digits 6 2)
  let time ← TimeOfDay.of? (field digits 8 2) (field digits 10 2) (field digits 12 2) micro
  return ⟨date, time⟩

/-- The microseconds of the text after the seconds: nothing, or a point and one to six digits of a
decimal fraction. -/
def fraction? : List Char → Option Nat
  | [] => some 0
  | c :: ds =>
    if c = '.' ∧ isNumeral 10 ds ∧ ds.length ≤ 6 then
      some (numeralValue 10 (ds ++ List.replicate (6 - ds.length) '0'))
    else none

def read? (s : List Char) : Option Timestamp := do
  let digits := s.take 14
  let micro ← fraction? (s.drop 14)
  if digits.length = 14 ∧ isNumeral 10 digits then ofDigits? digits micro else none

def listed (t : Timestamp) : List Char :=
  decimal 4 t.date.year ++ decimal 2 t.date.month ++ decimal 2 t.date.day ++
    decimal 2 t.time.hour ++ decimal 2 t.time.minute ++ decimal 2 t.time.second ++
    '.' :: decimal 6 t.time.micro

/-- The standard form, with the offset of universal time. -/
def standard (t : Timestamp) : String :=
  t.date.dashed ++ "T" ++ t.time.fractional ++ "+00:00"

/-- The form of a listing column: to the second, the year without leading zeros. -/
def column (t : Timestamp) : String :=
  String.ofList (writeNumeral 10 t.date.year ++ '-' :: decimal 2 t.date.month ++
    '-' :: decimal 2 t.date.day) ++ " " ++ t.time.clock

end Timestamp
end FileTransfer.Calendar
