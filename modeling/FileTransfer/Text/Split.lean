/-!
# Cutting text at separators

* `cut`: the text before and after the first occurrence of a separator.
* `pieces`: the text between the occurrences of a character; never empty.
* `dropEnd`: a text without the trailing characters of a class.
* `joined`: texts with a separator between neighbours.
-/

namespace FileTransfer.Text
set_option autoImplicit false

/-- The text before and after the first occurrence of `sep`, if there is one. -/
def cut (sep : List Char) : List Char → Option (List Char × List Char)
  | [] => if sep.isEmpty then some ([], []) else none
  | c :: cs =>
    if sep.isPrefixOf (c :: cs) then some ([], (c :: cs).drop sep.length)
    else (cut sep cs).map fun p => (c :: p.1, p.2)

/-- The maximal runs of text without `sep`, in order; one more than there are separators. -/
def pieces (sep : Char) : List Char → List (List Char)
  | [] => [[]]
  | c :: cs =>
    if c = sep then [] :: pieces sep cs
    else match pieces sep cs with
      | [] => [[c]]
      | p :: ps => (c :: p) :: ps

/-- A text without its longest suffix of characters in `drop`. -/
def dropEnd (drop : Char → Bool) (s : List Char) : List Char :=
  (s.reverse.dropWhile drop).reverse

/-- The last run of text without `sep`. -/
def lastPiece (sep : Char) (s : List Char) : List Char :=
  (s.reverse.takeWhile (· ≠ sep)).reverse

/-- Texts in order, with `sep` between neighbours. -/
def joined (sep : String) (ts : List String) : String := sep.intercalate ts

/-- ASCII letters in lower case; every other character stands. -/
def lower (s : List Char) : List Char := s.map Char.toLower

/-- A text with every occurrence of `old` followed by `after` shortened to `new`, left to right. -/
def contract (old after new : Char) : List Char → List Char
  | [] => []
  | [c] => [c]
  | c :: d :: cs =>
    if c = old ∧ d = after then new :: contract old after new cs
    else c :: contract old after new (d :: cs)

end FileTransfer.Text
