import FileTransfer.Settings.Toml.Scalar
import FileTransfer.Settings.Toml.Tables

/-!
# TOML documents

* `readValue`: a value: string, truth value, number, date, array or inline table.
* `Assembly`: a document read up to some line.
* `Assembly.assign`, `Assembly.openTable`, `Assembly.openArray`: what a line does.
* `read`: the table of a whole document.
-/

namespace FileTransfer.Toml
open FileTransfer.Text
set_option autoImplicit false

/-! ## Values -/

/-- Whether a value is written out in one place, so that nothing may be added to it later. -/
def isCompound : Value → Bool
  | .list _ => true
  | .table _ => true
  | _ => false

def readTruth? (s : List Char) : Option (Value × List Char) :=
  if "true".toList.isPrefixOf s then some (.truth true, s.drop 4)
  else if "false".toList.isPrefixOf s then some (.truth false, s.drop 5)
  else none

/-- A value that has no parts. -/
def readScalar : Read Value := fun s =>
  match readTruth? s with
  | some r => .ok r
  | none =>
    match readMoment? s with
    | some (value, rest) => value.map fun v => (v, rest)
    | none =>
      match readNumber? s with
      | some (value, rest) => value.map fun v => (v, rest)
      | none => .error .malformed

def addInline (key : Key) (value : Value) (es : Entries) : Except Flaw Entries :=
  Entries.insert false key.dropLast (key.getLastD "") value es

mutual

/-- A value; `fuel` bounds how deep values stand inside each other and how many stand side by
side. -/
def readValueWith : Nat → Read Value
  | 0, _ => .error .malformed
  | fuel + 1, s =>
    match s with
    | '[' :: cs => do
      let (items, rest) ← readItems fuel (← skipLines cs)
      return (.list items, rest)
    | '\x7b' :: cs =>
      match skipBlanks cs with
      | '\x7d' :: rest => .ok (.table [], rest)
      | cs => do
        let (entries, rest) ← readInline fuel {} [] cs
        return (.table entries, rest)
    | c :: _ =>
      if c = apostrophe ∨ c = doubleQuote then do
        let (text, rest) ← readString c s
        return (.text text, rest)
      else readScalar s
    | [] => .error .malformed

/-- The items of an array up to its closing bracket; a comma may stand after the last. -/
def readItems : Nat → Read (List Value)
  | 0, _ => .error .malformed
  | fuel + 1, s =>
    match s with
    | ']' :: rest => .ok ([], rest)
    | _ => do
      let (value, rest) ← readValueWith fuel s
      match ← skipLines rest with
      | ']' :: rest => return ([value], rest)
      | ',' :: rest =>
        let (values, rest) ← readItems fuel (← skipLines rest)
        return (value :: values, rest)
      | _ => throw .malformed

/-- The entries of an inline table up to its closing brace, on one line. -/
def readInline : Nat → Claims → Entries → Read Entries
  | 0, _, _, _ => .error .malformed
  | fuel + 1, claims, es, s => do
    let (key, value, rest) ← readPair fuel s
    if claims.isClosed key then throw .malformed
    let es ← addInline key value es
    match skipBlanks rest with
    | '\x7d' :: rest => return (es, rest)
    | ',' :: rest =>
      let claims := if isCompound value then claims.close key else claims
      readInline fuel claims es (skipBlanks rest)
    | _ => throw .malformed

def readPair : Nat → List Char → Except Flaw (Key × Value × List Char)
  | 0, _ => .error .malformed
  | fuel + 1, s => do
    let (key, rest) ← readKey s
    match rest with
    | '=' :: rest =>
      let (value, rest) ← readValueWith fuel (skipBlanks rest)
      return (key, value, rest)
    | _ => throw .malformed

end

/-! ## Lines -/

/-- A document up to some line: its table, what is laid down about keys, and the key of the table
that the last header opened. -/
structure Assembly where
  table : Entries := []
  claims : Claims := {}
  header : Key := []

namespace Assembly

/-- The keys of the tables that a dotted key passes through below the header. -/
def passed (header key : Key) : List Key :=
  (List.range (key.length - 1)).map fun i => header ++ key.take (i + 1)

/-- A line that assigns a value to a key of the open table. -/
def assign (a : Assembly) (key : Key) (value : Value) : Except Flaw Assembly := do
  let through := passed a.header key
  if through.any a.claims.isOpened then throw .malformed
  let place := a.header ++ key.dropLast
  if a.claims.isClosed place then throw .malformed
  let table ← Entries.insert true place (key.getLastD "") value a.table
  let claims := { a.claims with dotted := through ++ a.claims.dotted }
  let claims := if isCompound value then claims.close (a.header ++ key) else claims
  return { a with table, claims }

def openTable (a : Assembly) (key : Key) : Except Flaw Assembly := do
  if a.claims.isOpened key || a.claims.isClosed key then throw .malformed
  let table ← Entries.ensure key a.table
  return { table, claims := a.claims.markOpened key, header := key }

def openArray (a : Assembly) (key : Key) : Except Flaw Assembly := do
  if a.claims.isClosed key then throw .malformed
  let table ← Entries.append key.dropLast (key.getLastD "") a.table
  return { table, claims := (a.claims.renew key).markOpened key, header := key }

/-- A header, after its opening bracket. -/
def readHeader (a : Assembly) (s : List Char) : Except Flaw (Assembly × List Char) := do
  let a := { a with claims := a.claims.atHeader }
  match s with
  | '[' :: cs =>
    let (key, rest) ← readKey (skipBlanks cs)
    let a ← a.openArray key
    if "]]".toList.isPrefixOf rest then return (a, rest.drop 2) else throw .malformed
  | cs =>
    let (key, rest) ← readKey (skipBlanks cs)
    let a ← a.openTable key
    if "]".toList.isPrefixOf rest then return (a, rest.drop 1) else throw .malformed

/-- What a line says, before its comment and its end. -/
def readStatement (a : Assembly) (s : List Char) : Except Flaw (Assembly × List Char) :=
  match s with
  | '[' :: cs => a.readHeader cs
  | '#' :: _ => .ok (a, s)
  | _ => do
    let (key, value, rest) ← readPair (2 * s.length + 4) s
    return (← a.assign key value, rest)

/-- The lines of a document. Each round of `fuel` reads one. -/
def readLines : Nat → Assembly → List Char → Except Flaw Assembly
  | 0, _, _ => .error .malformed
  | fuel + 1, a, s =>
    match skipBlanks s with
    | [] => .ok a
    | '\n' :: cs => readLines fuel a cs
    | s => do
      let (a, rest) ← a.readStatement s
      match ← skipComment (skipBlanks rest) with
      | [] => return a
      | '\n' :: cs => readLines fuel a cs
      | _ => throw .malformed

end Assembly

/-- The table of a document; a carriage return and a line feed together are one line end. -/
def read (text : String) : Except Flaw Entries := do
  let s := contract '\r' '\n' '\n' text.toList
  let a ← Assembly.readLines (s.length + 1) {} s
  return a.table

end FileTransfer.Toml
