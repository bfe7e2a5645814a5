import FileTransfer.Number.Written
import FileTransfer.Settings.Toml.Text
import FileTransfer.Value.Basic

/-!
# TOML: numbers, dates and times

* `readDigits`: digits with single underscores between them.
* `readNumber?`: whole numbers in four bases, and numbers with a fraction or an exponent.
* `readMoment?`: dates, times of day, and both together with or without an offset.
-/

namespace FileTransfer.Toml
open FileTransfer.Text FileTransfer.Number FileTransfer.Calendar
set_option autoImplicit false

/-! ## Numbers -/

/-- The digits at the front of a text; an underscore may stand before a digit, except the first, and
does not count. -/
def digitsAfter (base : Nat) : List Char → List Char × List Char
  | '_' :: c :: cs =>
    if isDigitOf base c then
      let (ds, rest) := digitsAfter base cs
      (c :: ds, rest)
    else ([], '_' :: c :: cs)
  | c :: cs =>
    if isDigitOf base c then
      let (ds, rest) := digitsAfter base cs
      (c :: ds, rest)
    else ([], c :: cs)
  | [] => ([], [])

/-- The digits at the front of a text, which has to start with one. -/
def readDigits? (base : Nat) : List Char → Option (List Char × List Char)
  | [] => none
  | c :: cs =>
    if isDigitOf base c then
      let (ds, rest) := digitsAfter base cs
      some (c :: ds, rest)
    else none

/-- A whole number in base 16, 8 or 2, marked by a zero and a letter. -/
def readMarked? : List Char → Option (Nat × List Char)
  | '0' :: mark :: cs => do
    let base ← if mark = 'x' then some 16 else if mark = 'o' then some 8
      else if mark = 'b' then some 2 else none
    let (ds, rest) ← readDigits? base cs
    return (numeralValue base ds, rest)
  | _ => none

def readSign : List Char → List Char × List Char
  | '-' :: cs => (['-'], cs)
  | '+' :: cs => (['+'], cs)
  | cs => ([], cs)

/-- The digits before the point: a zero alone, or digits that do not start with zero. -/
def readWhole? : List Char → Option (List Char × List Char)
  | '0' :: cs => some (['0'], cs)
  | cs => readDigits? 10 cs

def readFraction (s : List Char) : List Char × List Char :=
  match s with
  | '.' :: cs =>
    match readDigits? 10 cs with
    | some (ds, rest) => ('.' :: ds, rest)
    | none => ([], s)
  | _ => ([], s)

def readExponent (s : List Char) : List Char × List Char :=
  match s with
  | c :: cs =>
    if c = 'e' ∨ c = 'E' then
      let (sign, after) := readSign cs
      match readDigits? 10 after with
      | some (ds, rest) => (c :: sign ++ ds, rest)
      | none => ([], s)
    else ([], s)
  | [] => ([], s)

/-- A whole number in decimal, unless it has too many digits. -/
def wholeValue (sign digits : List Char) : Except Flaw Value :=
  if digits.length > longestNumeral then .error (.longNumeral digits.length)
  else
    let n := numeralValue 10 digits
    .ok (.whole (if sign = ['-'] then -(n : Int) else n))

/-- A number in decimal: whole unless a fraction or an exponent follows. -/
def readDecimal? (s : List Char) : Option (Except Flaw Value × List Char) := do
  let (sign, after) := readSign s
  let (whole, after) ← readWhole? after
  let (fraction, after) := readFraction after
  let (exponent, rest) := readExponent after
  if fraction.isEmpty && exponent.isEmpty then return (wholeValue sign whole, rest)
  else
    let text := String.ofList (sign ++ whole ++ fraction ++ exponent)
    let x ← Binary64.read? text
    return (.ok (.real x), rest)

/-- Infinity, or no number at all, by name. -/
def readNamed? (s : List Char) : Option (Value × List Char) := do
  let (sign, after) := readSign s
  if ['i', 'n', 'f'].isPrefixOf after then
    return (.real (.infinite (sign = ['-'])), after.drop 3)
  else if ['n', 'a', 'n'].isPrefixOf after then return (.real .nan, after.drop 3)
  else none

def readNumber? (s : List Char) : Option (Except Flaw Value × List Char) :=
  match readMarked? s with
  | some (n, rest) => some (.ok (.whole n), rest)
  | none =>
    match readDecimal? s with
    | some r => some r
    | none => (readNamed? s).map fun r => (.ok r.1, r.2)

/-! ## Dates and times -/

/-- A number of exactly `count` digits. -/
def readField? (count : Nat) (s : List Char) : Option (Nat × List Char) :=
  let digits := s.take count
  if digits.length = count ∧ isNumeral 10 digits then
    some (numeralValue 10 digits, s.drop count)
  else none

/-- The text after a character that has to stand at the front. -/
def expect? (mark : Char) : List Char → Option (List Char)
  | c :: cs => if c = mark then some cs else none
  | [] => none

/-- Year, month and day with hyphens between them, day of the calendar or not. -/
def readDay? (s : List Char) : Option ((Nat × Nat × Nat) × List Char) := do
  let (year, s) ← readField? 4 s
  let (month, s) ← readField? 2 (← expect? '-' s)
  let (day, s) ← readField? 2 (← expect? '-' s)
  return ((year, month, day), s)

/-- The microseconds of a point and digits, if they follow; digits after the sixth do not count. -/
def readMicro (s : List Char) : Nat × List Char :=
  match s with
  | '.' :: cs =>
    let ds := cs.takeWhile (isDigitOf 10)
    if ds.isEmpty then (0, s)
    else
      let six := ds.take 6
      (numeralValue 10 (six ++ List.replicate (6 - six.length) '0'), cs.dropWhile (isDigitOf 10))
  | _ => (0, s)

def readTime? (s : List Char) : Option (TimeOfDay × List Char) := do
  let (hour, s) ← readField? 2 s
  let (minute, s) ← readField? 2 (← expect? ':' s)
  let (second, s) ← readField? 2 (← expect? ':' s)
  let (micro, s) := readMicro s
  let time ← TimeOfDay.of? hour minute second micro
  return (time, s)

def readOffset? (s : List Char) : Option (Int × List Char) := do
  match readSign s with
  | ([], _) => none
  | (sign, s) =>
    let (hours, s) ← readField? 2 s
    let (minutes, s) ← readField? 2 (← expect? ':' s)
    if hours > 23 ∨ minutes > 59 then none
    else
      let total : Int := hours * 60 + minutes
      return (if sign = ['-'] then -total else total, s)

def readZone (s : List Char) : Option Int × List Char :=
  match s with
  | [] => (none, [])
  | c :: cs =>
    if c = 'Z' ∨ c = 'z' then (some 0, cs)
    else match readOffset? s with
      | some (minutes, rest) => (some minutes, rest)
      | none => (none, s)

/-- The time of day after a date, if one follows the letter `T` or a space. -/
def readDayTime? : List Char → Option (TimeOfDay × List Char)
  | c :: cs => if c = 'T' ∨ c = 't' ∨ c = ' ' then readTime? cs else none
  | [] => none

def readDated (date : Date) (s : List Char) : Moment × List Char :=
  match readDayTime? s with
  | none => (.day date, s)
  | some (time, after) =>
    let (offset, rest) := readZone after
    (.instant date time offset, rest)

/-- A date, a time of day, or both. Three numbers in the form of a date have to name a day. -/
def readMoment? (s : List Char) : Option (Except Flaw Value × List Char) :=
  match readDay? s with
  | some ((year, month, day), rest) =>
    match Date.of? year month day with
    | none => some (.error .malformed, rest)
    | some date =>
      let (moment, rest) := readDated date rest
      some (.ok (.moment moment), rest)
  | none => (readTime? s).map fun r => (.ok (.moment (.clock r.1)), r.2)

end FileTransfer.Toml
