import FileTransfer.Number.Binary64

/-!
# The shortest decimal that reads back

A floating-point number stands for all reals that round to it. It is written with the fewest
significant digits that name a real of that interval, the closest one where several do.

* `Interval`: the reals that round to a number, as quotients over one denominator.
* `Decimal`: a whole number times a power of ten.
* `shortest`: the decimal of a finite number.
-/

namespace FileTransfer.Number
set_option autoImplicit false

structure Decimal where
  digits : Nat
  exponent : Int
  deriving DecidableEq, Repr

/-- The reals from `low / unit` to `high / unit` round to `value / unit`; the ends do so when
`closed` is set. -/
structure Interval where
  low : Nat
  value : Nat
  high : Nat
  unit : Nat
  closed : Bool
  deriving DecidableEq, Repr

namespace Interval

/-- The interval of `significand * 2 ^ exponent`. It reaches half way to both neighbours; below a
power of two the neighbour is half as far. -/
def ofBinary (significand : Nat) (exponent : Int) : Interval :=
  let narrow := significand = Nat.pow 2 (Binary64.precision - 1) ∧ exponent ≠ Binary64.minExponent
  let below := if narrow then 1 else 2
  let up := Nat.pow 2 exponent.toNat
  { low := (4 * significand - below) * up
    value := 4 * significand * up
    high := (4 * significand + 2) * up
    unit := 4 * Nat.pow 2 (-exponent).toNat
    closed := significand % 2 = 0 }

def contains (i : Interval) (num den : Nat) : Bool :=
  let x := num * i.unit
  if i.closed then i.low * den ≤ x && x ≤ i.high * den
  else i.low * den < x && x < i.high * den

/-- `grid` steps of ten to the power `-places`, as a quotient. -/
def gridPoint (grid : Nat) (places : Int) : Nat × Nat :=
  (grid * Nat.pow 10 (-places).toNat, Nat.pow 10 places.toNat)

/-- The grid point with `places` decimal places, if any, that lies in the interval and is closest to
its value; of two at the same distance the even one. Only the two neighbours of the value can be. -/
def onGrid? (i : Interval) (places : Int) : Option Decimal :=
  let num := i.value * Nat.pow 10 places.toNat
  let den := i.unit * Nat.pow 10 (-places).toNat
  let below := num / den
  let twice := 2 * (num % den)
  let inside (g : Nat) : Bool :=
    let (n, d) := gridPoint g places
    i.contains n d
  let preferUp := den < twice || (den = twice && below % 2 = 1)
  let first := if preferUp then below + 1 else below
  let second := if preferUp then below else below + 1
  if inside first && first != 0 then some ⟨first, -places⟩
  else if inside second && second != 0 then some ⟨second, -places⟩
  else none

end Interval

/-- The place of the first significant digit: `10 ^ (n - 1) ≤ num / den < 10 ^ n`. -/
def leadingPlace (num den : Nat) : Int :=
  let guess : Int := (Binary64.decimalDigits num : Int) - Binary64.decimalDigits den
  let reaches :=
    if 0 ≤ guess then decide (den * Nat.pow 10 guess.toNat ≤ num)
    else decide (den ≤ num * Nat.pow 10 (-guess).toNat)
  if reaches then guess + 1 else guess

def Decimal.stripped (d : Decimal) : Decimal :=
  let zeros := ((Nat.toDigits 10 d.digits).reverse.takeWhile (· = '0')).length
  if d.digits = 0 then d else ⟨d.digits / Nat.pow 10 zeros, d.exponent + zeros⟩

/-- The shortest decimal of `significand * 2 ^ exponent`: seventeen digits are always enough. -/
def shortest (significand : Nat) (exponent : Int) : Decimal :=
  let i := Interval.ofBinary significand exponent
  let lead := leadingPlace i.value i.unit
  let found := (List.range 17).findSome? fun (n : Nat) => i.onGrid? (n + 1 - lead)
  (found.getD ⟨0, 0⟩).stripped

end FileTransfer.Number
