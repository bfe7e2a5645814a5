import FileTransfer.Text.Numeral

/-!
# Dates and times of day

The Gregorian calendar for the years 1 to 9999, and times of day to the microsecond.

* `daysInMonth`: the length of a month, leap years included.
* `Date`, `TimeOfDay`: fields that name a real day, and a real time of a day.
* `Date.ofFields`, `TimeOfDay.ofFields`: from any numbers, or the first field that is out of range.
-/

namespace FileTransfer.Calendar
open FileTransfer.Text
set_option autoImplicit false

def isLeapYear (year : Nat) : Bool := year % 4 = 0 && (year % 100 != 0 || year % 400 = 0)

def daysInMonth (year month : Nat) : Nat :=
  if month = 2 then (if isLeapYear year then 29 else 28)
  else if month = 4 ∨ month = 6 ∨ month = 9 ∨ month = 11 then 30
  else 31

/-- Three numbers that name a day of the calendar. -/
abbrev IsDate (year month day : Nat) : Prop :=
  (1 ≤ year ∧ year ≤ 9999) ∧ (1 ≤ month ∧ month ≤ 12) ∧ 1 ≤ day ∧ day ≤ daysInMonth year month

/-- Four numbers that name an instant of a day. -/
abbrev IsTime (hour minute second micro : Nat) : Prop :=
  hour ≤ 23 ∧ minute ≤ 59 ∧ second ≤ 59 ∧ micro ≤ 999999

structure Date where
  year : Nat
  month : Nat
  day : Nat
  isDate : IsDate year month day
  deriving DecidableEq, Repr

structure TimeOfDay where
  hour : Nat
  minute : Nat
  second : Nat
  micro : Nat
  isTime : IsTime hour minute second micro
  deriving DecidableEq, Repr

inductive RangeFault where
  | year (given : Int)
  | month
  | day
  | hour
  | minute
  | second
  | micro
  deriving DecidableEq, Repr

def RangeFault.message : RangeFault → String
  | .year given => s!"year {given} is out of range"
  | .month => "month must be in 1..12"
  | .day => "day is out of range for month"
  | .hour => "hour must be in 0..23"
  | .minute => "minute must be in 0..59"
  | .second => "second must be in 0..59"
  | .micro => "microsecond must be in 0..999999"

/-- The day of a year, month and day, if there is one. -/
def Date.of? (year month day : Nat) : Option Date :=
  if h : IsDate year month day then some ⟨year, month, day, h⟩ else none

def TimeOfDay.of? (hour minute second micro : Nat) : Option TimeOfDay :=
  if h : IsTime hour minute second micro then some ⟨hour, minute, second, micro, h⟩ else none

/-- The day of a year, month and day, or the first of them that is out of range. -/
def Date.ofFields (year month day : Int) : Except RangeFault Date :=
  if ¬ (1 ≤ year ∧ year ≤ 9999) then .error (.year year)
  else if ¬ (1 ≤ month ∧ month ≤ 12) then .error .month
  else match Date.of? year.toNat month.toNat day.toNat with
    | some d => .ok d
    | none => .error .day

/-- The time of an hour, minute, second and microsecond, or the first of them that is out of
range. -/
def TimeOfDay.ofFields (hour minute second micro : Int) : Except RangeFault TimeOfDay :=
  if ¬ (0 ≤ hour ∧ hour ≤ 23) then .error .hour
  else if ¬ (0 ≤ minute ∧ minute ≤ 59) then .error .minute
  else if ¬ (0 ≤ second ∧ second ≤ 59) then .error .second
  else if micro < 0 then .error .micro
  else match TimeOfDay.of? hour.toNat minute.toNat second.toNat micro.toNat with
    | some t => .ok t
    | none => .error .micro

/-- A date as `YYYY-MM-DD`. -/
def Date.dashed (d : Date) : String :=
  String.ofList (decimal 4 d.year ++ '-' :: decimal 2 d.month ++ '-' :: decimal 2 d.day)

/-- A time as `hh:mm:ss`. -/
def TimeOfDay.clock (t : TimeOfDay) : String :=
  String.ofList (decimal 2 t.hour ++ ':' :: decimal 2 t.minute ++ ':' :: decimal 2 t.second)

/-- A time as `hh:mm:ss`, with six decimals of a second when they are not all zero. -/
def TimeOfDay.fractional (t : TimeOfDay) : String :=
  if t.micro = 0 then t.clock else t.clock ++ "." ++ String.ofList (decimal 6 t.micro)

end FileTransfer.Calendar
