/-!
# Binary floating-point numbers of 64 bits

Numbers as integers times powers of two, so that reading them from decimal is exact arithmetic.

* `Binary64`: a sign, and infinity or `significand * 2 ^ exponent`, or no number at all.
* `Binary64.roundQuotient`: the closest number to a quotient, ties to the even significand.
* `Binary64.ofDecimal`: the closest number to `digits * 10 ^ exponent`.
-/

namespace FileTransfer.Number
set_option autoImplicit false

/-- A floating-point number. A finite one is `significand * 2 ^ exponent` with fewer than 54 binary
digits; its exponent is the least one possible, and at least `-1074`. -/
inductive Binary64 where
  | nan
  | infinite (negative : Bool)
  | finite (negative : Bool) (significand : Nat) (exponent : Int)
  deriving DecidableEq, Repr

namespace Binary64

def precision : Nat := 53

def minExponent : Int := -1074

def maxExponent : Int := 971

/-- A whole number equals zero when it is `0` or `-0`. -/
def isZero : Binary64 → Bool
  | .finite _ 0 _ => true
  | _ => false

def isPositive (x : Binary64) : Bool :=
  match x with
  | .nan => false
  | .infinite negative => !negative
  | .finite negative significand _ => !negative && significand != 0

def exceeds (x : Binary64) (count : Nat) : Bool :=
  match x with
  | .nan => false
  | .infinite negative => !negative
  | .finite negative significand exponent =>
    !negative && count * Nat.pow 2 (-exponent).toNat < significand * Nat.pow 2 exponent.toNat

/-- The closest whole number to `num / den`, ties to even. -/
def roundToEven (num den : Nat) : Nat :=
  let q := num / den
  let r := num % den
  if 2 * r < den then q
  else if 2 * r > den then q + 1
  else if q % 2 = 0 then q else q + 1

/-- `num / den` divided by `2 ^ exponent`, as a quotient. -/
def scaled (num den : Nat) (exponent : Int) : Nat × Nat :=
  if 0 ≤ exponent then (num, den * Nat.pow 2 exponent.toNat)
  else (num * Nat.pow 2 (-exponent).toNat, den)

/-- The exponent at which `num / den` has the full number of binary digits before the point. -/
def exponentOf (num den : Nat) : Int :=
  let guess : Int := (num.log2 : Int) - den.log2 - precision
  let (n, d) := scaled num den guess
  if n < d * Nat.pow 2 precision then guess else guess + 1

/-- The closest number to `num / den`, ties to the even significand; beyond the greatest number it
is infinite. -/
def roundQuotient (negative : Bool) (num den : Nat) : Binary64 :=
  if num = 0 then .finite negative 0 minExponent
  else
    let exponent := max minExponent (exponentOf num den)
    let (n, d) := scaled num den exponent
    let significand := roundToEven n d
    let (significand, exponent) :=
      if significand = Nat.pow 2 precision then (Nat.pow 2 (precision - 1), exponent + 1)
      else (significand, exponent)
    if exponent > maxExponent then .infinite negative
    else .finite negative significand exponent

def decimalDigits (n : Nat) : Nat := (Nat.toDigits 10 n).length

/-- The closest number to `digits * 10 ^ exponent`. The first test keeps powers of ten small: the
greatest number has 309 digits, and half of the least one has 323 zeros after its point. -/
def ofDecimal (negative : Bool) (digits : Nat) (exponent : Int) : Binary64 :=
  if digits = 0 then .finite negative 0 minExponent
  else
    let size : Int := decimalDigits digits + exponent
    if size > 310 then .infinite negative
    else if size < -330 then .finite negative 0 minExponent
    else if 0 ≤ exponent then roundQuotient negative (digits * Nat.pow 10 exponent.toNat) 1
    else roundQuotient negative digits (Nat.pow 10 (-exponent).toNat)

/-- The whole number towards zero, of a finite number. -/
def truncate? : Binary64 → Option Int
  | .finite negative significand exponent =>
    let whole : Nat :=
      if 0 ≤ exponent then significand * Nat.pow 2 exponent.toNat
      else significand / Nat.pow 2 (-exponent).toNat
    some (if negative then -(whole : Int) else whole)
  | _ => none

end Binary64
end FileTransfer.Number
