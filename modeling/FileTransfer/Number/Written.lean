import FileTransfer.Number.Shortest
import FileTransfer.Text.Numeral
import FileTransfer.Text.Split

/-!
# Floating-point numbers as text

* `Layout`, `Layout.plain`: where positional writing ends and how an exponent looks.
* `Binary64.written`: the text of a number; it always shows that the number is not whole by type.
* `Binary64.read?`: the number of a text; every written number reads back.
-/

namespace FileTransfer.Number
open FileTransfer.Text
set_option autoImplicit false

/-- How a decimal is laid out. The point stands after digit number `n` of the digits when
`leastPoint < n ≤ greatestPoint`; elsewhere an exponent follows. -/
structure Layout where
  leastPoint : Int
  greatestPoint : Int
  /-- Digits of an exponent, at least. -/
  exponentWidth : Nat
  deriving DecidableEq, Repr

/-- Numbers from `0.0001` up to sixteen digits before the point are written positionally. -/
def Layout.plain : Layout := ⟨-4, 16, 2⟩

/-- Digits with a point after the first `point` of them and a digit on both sides of it. -/
def positional (digits : List Char) (point : Int) : List Char :=
  let whole := digits.take point.toNat
  let zeros := List.replicate (point.toNat - digits.length) '0'
  let lead := List.replicate (-point).toNat '0'
  let fraction := lead ++ digits.drop point.toNat
  (if whole.isEmpty then ['0'] else whole ++ zeros) ++ '.' ::
    (if fraction.isEmpty then ['0'] else fraction)

/-- Digits with a point after the first of them, if more follow, and an exponent of ten. -/
def scientific (layout : Layout) (digits : List Char) (exponent : Int) : List Char :=
  let mantissa := match digits with
    | d :: e :: ds => d :: '.' :: e :: ds
    | ds => ds
  mantissa ++ 'e' :: (if exponent < 0 then '-' else '+') ::
    decimal layout.exponentWidth exponent.natAbs

def Decimal.written (layout : Layout) (d : Decimal) : List Char :=
  let digits := writeNumeral 10 d.digits
  let point := (digits.length : Int) + d.exponent
  if layout.leastPoint < point && point ≤ layout.greatestPoint then positional digits point
  else scientific layout digits (point - 1)

namespace Binary64

def written (layout : Layout) : Binary64 → String
  | .nan => "nan"
  | .infinite negative => if negative then "-inf" else "inf"
  | .finite negative significand exponent =>
    let size := if significand = 0 then ['0', '.', '0']
      else (shortest significand exponent).written layout
    String.ofList (if negative then '-' :: size else size)

def readSign : List Char → Bool × List Char
  | '-' :: cs => (true, cs)
  | '+' :: cs => (false, cs)
  | cs => (false, cs)

/-- The exponent of ten after the digits: none is zero. -/
def readExponent? : List Char → Option Int
  | [] => some 0
  | c :: cs =>
    if c = 'e' ∨ c = 'E' then
      let (negative, ds) := readSign cs
      (readNumeral? 10 ds).map fun n => if negative then -(n : Int) else n
    else none

/-- A number from its digits: some before the point, some after it if there is a point, and an
exponent. -/
def readDigits? (negative : Bool) (s : List Char) : Option Binary64 := do
  let whole := s.takeWhile (isDigitOf 10)
  let after := s.dropWhile (isDigitOf 10)
  let (fraction, tail) ← match after with
    | '.' :: cs =>
      let fs := cs.takeWhile (isDigitOf 10)
      if fs.isEmpty then none else some (fs, cs.dropWhile (isDigitOf 10))
    | cs => some ([], cs)
  let exponent ← readExponent? tail
  let digits ← if whole.isEmpty then none else some (numeralValue 10 (whole ++ fraction))
  return ofDecimal negative digits (exponent - fraction.length)

def read? (s : String) : Option Binary64 :=
  let (negative, cs) := readSign s.toList
  if cs = ['n', 'a', 'n'] then some .nan
  else if cs = ['i', 'n', 'f'] then some (.infinite negative)
  else readDigits? negative cs

end Binary64
end FileTransfer.Number
