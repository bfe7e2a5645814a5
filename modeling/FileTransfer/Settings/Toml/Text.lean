import FileTransfer.Text.Numeral
import FileTransfer.Text.Quoted

/-!
# TOML: strings, keys and blanks

* `Flaw`, `Read`: readers take the front of a text and give what is left of it.
* `basicBody`, `literalBody`: the two kinds of string, on one line or several.
* `readKey`: a dotted key.
* `skipBlanks`, `skipComment`, `skipLines`: what may stand between the parts of a document.
-/

namespace FileTransfer.Toml
open FileTransfer.Text
set_option autoImplicit false

inductive Flaw where
  | malformed
  | longNumeral (digits : Nat)
  deriving DecidableEq, Repr

/-- A reader of the front of a text. -/
abbrev Read (α : Type) := List Char → Except Flaw (α × List Char)

/-! ## Blanks and comments -/

def isBlank (c : Char) : Bool := c = ' ' || c = '\t'

/-- A control character other than the tab; none may stand in a string on one line or a comment. -/
def isControl (c : Char) : Bool := (c.toNat < 0x20 && c != '\t') || c.toNat = 0x7F

def skipBlanks (s : List Char) : List Char := s.dropWhile isBlank

/-- A text without the comment at its front, the end of the line excepted. -/
def skipComment : List Char → Except Flaw (List Char)
  | '#' :: cs =>
    if (cs.takeWhile (· ≠ '\n')).any isControl then .error .malformed
    else .ok (cs.dropWhile (· ≠ '\n'))
  | cs => .ok cs

/-- A text without the blanks, line ends and comments at its front. Each round of `fuel` passes one
comment. -/
def skipLinesWith : Nat → List Char → Except Flaw (List Char)
  | 0, s => .ok s
  | fuel + 1, s =>
    match s.dropWhile fun c => isBlank c || c = '\n' with
    | '#' :: cs => do skipLinesWith fuel (← skipComment ('#' :: cs))
    | cs => .ok cs

/-- A text without the blanks, line ends and comments at its front. -/
def skipLines (s : List Char) : Except Flaw (List Char) := skipLinesWith s.length s

/-! ## Strings -/

/-- The characters with an escape of one letter. -/
def letterEscapes : List (Char × Char) :=
  [('b', '\x08'), ('t', '\t'), ('n', '\n'), ('f', '\x0c'), ('r', '\r'),
   (doubleQuote, doubleQuote), (backslash, backslash)]

/-- A character by its number in hexadecimal digits, `count` of them. -/
def numbered (count : Nat) (s : List Char) : Except Flaw (List Char × List Char) :=
  let digits := s.take count
  let n := numeralValue 16 digits
  if digits.length = count ∧ isNumeral 16 digits ∧ n.isValidChar then
    .ok ([Char.ofNat n], s.drop count)
  else .error .malformed

/-- What an escape stands for; `s` is the text after the backslash. At the end of a line of a long
string a backslash stands for nothing and takes the blanks and line ends after it along. -/
def readEscape (long : Bool) (s : List Char) : Except Flaw (List Char × List Char) :=
  match s with
  | [] => .error .malformed
  | c :: cs =>
    if long && (isBlank c || c = '\n') then
      match skipBlanks s with
      | [] => .ok ([], [])
      | d :: ds =>
        if d = '\n' then .ok ([], ds.dropWhile fun e => isBlank e || e = '\n')
        else .error .malformed
    else if c = 'u' then numbered 4 cs
    else if c = 'U' then numbered 8 cs
    else match letterEscapes.lookup c with
      | some d => .ok ([d], cs)
      | none => .error .malformed

theorem length_dropWhile_le {α : Type} (p : α → Bool) (s : List α) :
    (s.dropWhile p).length ≤ s.length :=
  (List.dropWhile_suffix p).length_le

/-- An escape leaves no more text than it was given. -/
theorem readEscape_length {long : Bool} {s t r : List Char}
    (h : readEscape long s = .ok (t, r)) : r.length ≤ s.length := by
  unfold readEscape at h
  split at h
  · simp at h
  · rename_i c cs
    split at h
    · split at h
      · simp only [Except.ok.injEq, Prod.mk.injEq] at h
        simp [← h.2]
      · rename_i d ds hd
        split at h
        · simp only [Except.ok.injEq, Prod.mk.injEq] at h
          have h1 := length_dropWhile_le (fun e => isBlank e || e = '\n') ds
          have h2 := length_dropWhile_le isBlank (c :: cs)
          rw [show (c :: cs).dropWhile isBlank = d :: ds from hd] at h2
          simp only [List.length_cons] at h2 ⊢
          rw [← h.2]
          omega
        · simp at h
    · split at h
      · unfold numbered at h
        dsimp only at h
        split at h
        · simp only [Except.ok.injEq, Prod.mk.injEq] at h
          simp only [← h.2, List.length_drop, List.length_cons]
          omega
        · simp at h
      · split at h
        · unfold numbered at h
          dsimp only at h
          split at h
          · simp only [Except.ok.injEq, Prod.mk.injEq] at h
            simp only [← h.2, List.length_drop, List.length_cons]
            omega
          · simp at h
        · split at h
          · simp only [Except.ok.injEq, Prod.mk.injEq] at h
            simp [← h.2]
          · simp at h

/-- The characters of a string between double quotes, after its opening mark. A long string may hold
line ends, and ends with three marks. -/
def basicBody (long : Bool) (s : List Char) : Except Flaw (List Char × List Char) :=
  match s with
  | [] => .error .malformed
  | c :: cs =>
    if c = doubleQuote then
      if !long then .ok ([], cs)
      else if [doubleQuote, doubleQuote].isPrefixOf cs then .ok ([], cs.drop 2)
      else do
        let (text, rest) ← basicBody long cs
        return (c :: text, rest)
    else if c = backslash then
      match h : readEscape long cs with
      | .error flaw => .error flaw
      | .ok (text, rest) => do
        have := readEscape_length h
        let (more, rest) ← basicBody long rest
        return (text ++ more, rest)
    else if isControl c && !(long && c = '\n') then .error .malformed
    else do
      let (text, rest) ← basicBody long cs
      return (c :: text, rest)
termination_by s.length
decreasing_by all_goals simp only [List.length_cons]; omega

/-- The characters of a string between apostrophes, after its opening mark; nothing is escaped. -/
def literalBody (long : Bool) : List Char → Except Flaw (List Char × List Char)
  | [] => .error .malformed
  | c :: cs =>
    if c = apostrophe && !long then .ok ([], cs)
    else if c = apostrophe && [apostrophe, apostrophe].isPrefixOf cs then .ok ([], cs.drop 2)
    else if isControl c && !(long && c = '\n') then .error .malformed
    else do
      let (text, rest) ← literalBody long cs
      return (c :: text, rest)

/-- Up to two marks right after the end of a long string belong to it. -/
def endMarks (mark : Char) (text rest : List Char) : List Char × List Char :=
  let marks := (rest.take 2).takeWhile (· = mark)
  (text ++ marks, rest.drop marks.length)

/-- A long string, after its three opening marks; a line end right there does not count. -/
def readLong (mark : Char) (s : List Char) : Except Flaw (List Char × List Char) := do
  let s := match s with
    | '\n' :: cs => cs
    | cs => cs
  let (text, rest) ← if mark = doubleQuote then basicBody true s else literalBody true s
  return endMarks mark text rest

/-- A string on one line, after its opening mark. -/
def readShort (mark : Char) (s : List Char) : Except Flaw (List Char × List Char) :=
  if mark = doubleQuote then basicBody false s else literalBody false s

/-- A string of any kind, opening mark included. -/
def readString (mark : Char) (s : List Char) : Except Flaw (String × List Char) := do
  let (text, rest) ←
    if [mark, mark, mark].isPrefixOf s then readLong mark (s.drop 3) else readShort mark (s.drop 1)
  return (String.ofList text, rest)

/-! ## Keys -/

def isBare (c : Char) : Bool :=
  ('a' ≤ c && c ≤ 'z') || ('A' ≤ c && c ≤ 'Z') || ('0' ≤ c && c ≤ '9') || c = '-' || c = '_'

/-- The names of a dotted key, outermost first. -/
abbrev Key := List String

def readPart : Read String
  | [] => .error .malformed
  | c :: cs => do
    if isBare c then
      return (String.ofList ((c :: cs).takeWhile isBare), (c :: cs).dropWhile isBare)
    else if c = apostrophe ∨ c = doubleQuote then
      let (text, rest) ← readShort c cs
      return (String.ofList text, rest)
    else throw .malformed

/-- A key, and the blanks after it. Each round of `fuel` reads one part. -/
def readKeyWith : Nat → Read Key
  | 0, _ => .error .malformed
  | fuel + 1, s => do
    let (part, rest) ← readPart s
    match skipBlanks rest with
    | '.' :: more =>
      let (parts, rest) ← readKeyWith fuel (skipBlanks more)
      return (part :: parts, rest)
    | rest => return ([part], rest)

/-- A key, and the blanks after it. -/
def readKey : Read Key := fun s => readKeyWith (s.length + 1) s

end FileTransfer.Toml
