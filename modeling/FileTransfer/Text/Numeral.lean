/-!
# Numerals

Numbers written in the ASCII digits of a base.

* `digitValue?`, `readNumeral?`: the value of a digit, and of a non-empty run of digits.
* `writeNumeral`: the shortest numeral, in lower-case digits.
* `padZeros`: a numeral filled with zeros on the left.
* `longestNumeral`: how many digits a decimal numeral may have.
-/

namespace FileTransfer.Text
set_option autoImplicit false

/-- The value of an ASCII digit or letter read as a digit of some base up to 36. -/
def digitValue (c : Char) : Nat :=
  if '0' ≤ c ∧ c ≤ '9' then c.toNat - '0'.toNat
  else if 'a' ≤ c ∧ c ≤ 'z' then c.toNat - 'a'.toNat + 10
  else if 'A' ≤ c ∧ c ≤ 'Z' then c.toNat - 'A'.toNat + 10
  else 36

def isDigitOf (base : Nat) (c : Char) : Bool := digitValue c < base

/-- Whether a text is a non-empty run of digits of `base`. -/
def isNumeral (base : Nat) (s : List Char) : Bool := !s.isEmpty && s.all (isDigitOf base)

/-- The value of a run of digits, the leftmost digit weighing most. -/
def numeralValue (base : Nat) (s : List Char) : Nat :=
  s.foldl (fun n c => n * base + digitValue c) 0

def readNumeral? (base : Nat) (s : List Char) : Option Nat :=
  if isNumeral base s then some (numeralValue base s) else none

/-- A decimal numeral with more digits than this is not read. -/
def longestNumeral : Nat := 4300

/-- The digits of a number in `base`, without leading zeros. -/
def writeNumeral (base n : Nat) : List Char := Nat.toDigits base n

/-- A numeral filled with zeros on the left up to a width. -/
def padZeros (width : Nat) (s : List Char) : List Char :=
  List.replicate (width - s.length) '0' ++ s

/-- A number in decimal, filled with zeros on the left up to a width. -/
def decimal (width n : Nat) : List Char := padZeros width (writeNumeral 10 n)

end FileTransfer.Text
