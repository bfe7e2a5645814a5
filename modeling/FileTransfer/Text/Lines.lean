import FileTransfer.Text.Utf8

/-!
# Lines out of pieces of bytes

Text arrives as pieces of bytes and leaves as lines. A line ends with a line feed, a carriage
return, or the pair, and is handed out with one line feed; the last line may have no end.

* `Encoding`, `Decoder`: how bytes are read as characters, and what is held back between pieces.
* `Decoder.feed`: the characters of one more piece, line ends already uniform.
* `terminated`: the lines that are complete in a text, and the line that is begun.
* `readPieces`: the lines of a sequence of pieces, and how it ended.
-/

namespace FileTransfer.Text
set_option autoImplicit false

inductive Encoding where
  | utf8
  /-- Each byte is the character of that number. -/
  | latin1
  deriving DecidableEq, Repr

/-- What is kept between two pieces: the bytes of an unfinished character, and whether a carriage
return waits to see if a line feed follows. -/
structure Decoder where
  encoding : Encoding
  held : List UInt8 := []
  returnHeld : Bool := false
  deriving DecidableEq, Repr

/-- Every line end as one line feed. -/
def uniformEnds : List Char → List Char
  | [] => []
  | '\r' :: '\n' :: cs => '\n' :: uniformEnds cs
  | c :: cs => (if c = '\r' then '\n' else c) :: uniformEnds cs

namespace Decoder

/-- The characters of the held bytes and a piece, and the bytes held back now. -/
def characters (d : Decoder) (atEnd : Bool) (piece : List UInt8) :
    Except Utf8.Malformed (List Char × List UInt8) :=
  match d.encoding with
  | .utf8 => Utf8.decode atEnd (d.held ++ piece)
  | .latin1 => .ok (piece.map fun b => Char.ofNat b.toNat, [])

/-- The characters of one more piece. A carriage return at its end is held back until the next
character, or the end of the data, shows whether it is half of a pair. -/
def feed (d : Decoder) (atEnd : Bool) (piece : List UInt8) :
    Except Utf8.Malformed (List Char × Decoder) := do
  let (cs, held) ← d.characters atEnd piece
  let released := d.returnHeld && (!cs.isEmpty || atEnd)
  let text := if released then '\r' :: cs else cs
  if !atEnd && text.getLast? = some '\r' then
    return (uniformEnds text.dropLast, { d with held, returnHeld := true })
  else
    return (uniformEnds text, { d with held, returnHeld := d.returnHeld && !released })

end Decoder

/-- The lines of a text that have their end, end included, and the line begun after them. -/
def terminated : List Char → List (List Char) × List Char
  | [] => ([], [])
  | c :: cs =>
    let (lines, begun) := terminated cs
    if c = '\n' then ([c] :: lines, begun)
    else match lines with
      | [] => ([], c :: begun)
      | l :: ls => ((c :: l) :: ls, begun)

inductive Ending where
  | finished
  /-- The pieces ran out and the channel broke instead of ending. -/
  | cutOff
  | undecodable (reason : Utf8.Malformed)
  deriving DecidableEq, Repr

/-- What a reading of pieces gives: the lines, how it ended, and what is left for another one. -/
structure LineReading where
  lines : List (List Char)
  ending : Ending
  decoder : Decoder
  rest : List (List UInt8) := []
  deriving DecidableEq, Repr

/-- The lines at the end of the data, the line already begun first. -/
def readEnd (d : Decoder) (begun : List Char) : LineReading :=
  match d.feed true [] with
  | .error reason => { lines := [], ending := .undecodable reason, decoder := d }
  | .ok (text, d') =>
    let (lines, last) := terminated (begun ++ text)
    { lines := if last.isEmpty then lines else lines ++ [last], ending := .finished, decoder := d' }

/-- The lines of pieces of bytes. An empty piece is the end of the data. Lines completed by earlier
pieces are handed out before a fault; the line begun and the lines of the faulty piece are lost. -/
def readPieces (breaks : Bool) (d : Decoder) (begun : List Char) :
    List (List UInt8) → LineReading
  | [] =>
    if breaks then { lines := [], ending := .cutOff, decoder := d } else readEnd d begun
  | [] :: _ => readEnd d begun
  | piece :: rest =>
    match d.feed false piece with
    | .error reason => { lines := [], ending := .undecodable reason, decoder := d, rest }
    | .ok (text, d') =>
      let (lines, begun') := terminated (begun ++ text)
      let later := readPieces breaks d' begun' rest
      { later with lines := lines ++ later.lines }

end FileTransfer.Text
