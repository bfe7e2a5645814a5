import FileTransfer.Text.Printable
import FileTransfer.Text.Numeral

/-!
# Quoted text

How a text is shown inside a message: between quote marks, with everything that would not show, or
would end the quotation, written as an escape.

* `quoteMark`: an apostrophe, unless the text holds an apostrophe and no double quote.
* `escaped`: one character inside the quotation.
* `quoted`: the whole text.
-/

namespace FileTransfer.Text
set_option autoImplicit false

/-- The mark used unless the text forces the other one. -/
def apostrophe : Char := Char.ofNat 0x27

/-- The mark used for a text that holds an apostrophe but no double quote. -/
def doubleQuote : Char := Char.ofNat 0x22

def backslash : Char := Char.ofNat 0x5C

def quoteMark (s : List Char) : Char :=
  if s.contains apostrophe && !s.contains doubleQuote then doubleQuote else apostrophe

/-- A character by number: two, four or eight hexadecimal digits, whichever is enough. -/
def numberedEscape (c : Char) : List Char :=
  let digits := writeNumeral 16 c.toNat
  if c.toNat < 0x100 then backslash :: 'x' :: padZeros 2 digits
  else if c.toNat < 0x10000 then backslash :: 'u' :: padZeros 4 digits
  else backslash :: 'U' :: padZeros 8 digits

/-- A character as it stands in a quotation that ends with `mark`. -/
def escaped (mark c : Char) : List Char :=
  if c = mark ∨ c = backslash then [backslash, c]
  else if c = '\t' then [backslash, 't']
  else if c = '\n' then [backslash, 'n']
  else if c = '\r' then [backslash, 'r']
  else if isPrintable c then [c]
  else numberedEscape c

def quoted (s : String) : String :=
  let mark := quoteMark s.toList
  String.ofList (mark :: s.toList.flatMap (escaped mark) ++ [mark])

end FileTransfer.Text
