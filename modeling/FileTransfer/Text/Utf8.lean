/-!
# Decoding UTF-8 piece by piece

Bytes arrive in pieces whose boundaries may fall inside a character. The decoder holds back an
unfinished character and reports the first fault with its place in the bytes at hand.

* `Fault`, `Malformed`: what is wrong, and where.
* `Partial`: the bytes of a character still unfinished.
* `decode`: the characters of the bytes at hand and the bytes held back; at the end of the data
  nothing may be held back.
-/

namespace FileTransfer.Text.Utf8
set_option autoImplicit false

inductive Fault where
  /-- No character starts with this byte. -/
  | start
  /-- The character that was begun cannot go on with the next byte. -/
  | continuation
  | truncated
  deriving DecidableEq, Repr

/-- A fault, its first byte, the place of that byte, and how many bytes are at fault. -/
structure Malformed where
  byte : UInt8
  place : Nat
  count : Nat
  fault : Fault
  deriving DecidableEq, Repr

/-- Bytes `0x80` to `0xBF` carry on a character. -/
def isContinuation (b : UInt8) : Bool := 0x80 ≤ b && b < 0xC0

/-- How many bytes a character has that starts with `b`; zero when none does. -/
def width (b : UInt8) : Nat :=
  if b < 0x80 then 1 else if b < 0xC2 then 0 else if b < 0xE0 then 2
  else if b < 0xF0 then 3 else if b < 0xF5 then 4 else 0

/-- Whether `second` may follow `first`: overlong forms and values above the last code point are
excluded by their second byte. -/
def isSecond (first second : UInt8) : Bool :=
  isContinuation second
    && !(first = 0xE0 && second < 0xA0)
    && !(first = 0xF0 && second < 0x90)
    && !(first = 0xF4 && 0x90 ≤ second)

/-- Whether two bytes begin a surrogate, which no continuation completes. -/
def isSurrogate : List UInt8 → Bool
  | first :: second :: _ => first = 0xED && 0xA0 ≤ second
  | _ => false

def codePoint : List UInt8 → Nat
  | [] => 0
  | [a] => a.toNat
  | a :: rest =>
    rest.foldl (fun n b => n * 64 + (b.toNat - 0x80))
      (a.toNat % Nat.pow 2 (7 - (rest.length + 1)))

/-- Where a fault in a begun character is reported: at its first byte, counting its good bytes; a
surrogate is at fault in its first byte alone. -/
def broken (pending : List UInt8) (place : Nat) (fault : Fault) : Malformed where
  byte := pending.headD 0
  place := place
  count := if isSurrogate pending then 1 else pending.length
  fault := if isSurrogate pending then .continuation else fault

/-- Reads bytes after the good beginning `pending` of a character, which starts at `place`. -/
def decodeFrom (place : Nat) (pending : List UInt8) :
    List UInt8 → Except Malformed (List Char × List UInt8)
  | [] => .ok ([], pending)
  | b :: bs =>
    match pending with
    | [] =>
      match width b with
      | 0 => .error ⟨b, place, 1, .start⟩
      | 1 => do
        let (cs, held) ← decodeFrom (place + 1) [] bs
        return (Char.ofNat b.toNat :: cs, held)
      | _ => decodeFrom place [b] bs
    | first :: more =>
      let good := match more with
        | [] => isSecond first b
        | _ :: _ => isContinuation b && !isSurrogate pending
      let grown := pending ++ [b]
      if !good then .error (broken pending place .continuation)
      else if grown.length < width first then decodeFrom place grown bs
      else do
        let (cs, held) ← decodeFrom (place + grown.length) [] bs
        return (Char.ofNat (codePoint grown) :: cs, held)

/-- The characters of `bytes` and the unfinished character held back; places count from the first
byte. At the end of the data an unfinished character is a fault. -/
def decode (atEnd : Bool) (bytes : List UInt8) : Except Malformed (List Char × List UInt8) := do
  let (cs, held) ← decodeFrom 0 [] bytes
  if atEnd && !held.isEmpty then
    throw (broken held (bytes.length - held.length) .truncated)
  return (cs, held)

def Fault.message : Fault → String
  | .start => "invalid start byte"
  | .continuation => "invalid continuation byte"
  | .truncated => "unexpected end of data"

end FileTransfer.Text.Utf8
