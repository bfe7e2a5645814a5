import FileTransfer.Text.Digit
import FileTransfer.Text.Split

/-!
# Arguments

The words of a command line: options, the remote, the command, and the words of the command.

* `Switch`, `Spec`: the options and how they are written.
* `Word`, `Spec.classify`: what a word is: an option, written out, shortened or clustered, or not.
* `Arguments`: a command line that makes sense.
* `Arguments.read`: the arguments of the words, or the exit status of a command line that asks for
  help, or makes no sense.
-/

namespace FileTransfer.CommandLine
open FileTransfer.Text
set_option autoImplicit false

/-! ## Options -/

inductive Switch where
  | help | config | verbose
  deriving DecidableEq, Repr

/-- An option: its long name, and its one-letter name if it has one. -/
structure Spec where
  switch : Switch
  long : List Char
  short : Option Char
  deriving DecidableEq, Repr

def Spec.help : Spec := ⟨.help, "help".toList, some 'h'⟩

def mainSpecs : List Spec :=
  [Spec.help, ⟨.config, "config".toList, none⟩, ⟨.verbose, "verbose".toList, some 'v'⟩]

def commandSpecs : List Spec := [Spec.help]

inductive Word where
  | plain
  /-- An option by its long name, and the value written to it. -/
  | long (spec : Spec) (value : Option (List Char))
  /-- An option by its letter, and what is written behind it. -/
  | short (spec : Spec) (tail : List Char)
  /-- It looks like an option and is none. -/
  | unknown
  | ambiguous
  deriving DecidableEq, Repr

def isDigits (s : List Char) : Bool := s.all fun c => (decimalValue? c).isSome

/-- Whether what follows a hyphen makes a negative number. -/
def isNumberTail (s : List Char) : Bool :=
  let s := if s.getLast? = some '\n' then s.dropLast else s
  match cut ['.'] s with
  | none => !s.isEmpty && isDigits s
  | some (whole, fraction) => isDigits whole && !fraction.isEmpty && isDigits fraction

/-- A word that starts with a hyphen and is no option: negative numbers and words with a space are
words like others. -/
def hyphenated (tail : List Char) : Word :=
  if isNumberTail tail || tail.contains ' ' then .plain else .unknown

def nameAndValue (s : List Char) : List Char × Option (List Char) :=
  match cut ['='] s with
  | some (name, value) => (name, some value)
  | none => (s, none)

/-- What a word with two hyphens is: an option by its name, or by the beginning of its name. -/
def classifyLong (specs : List Spec) (s : List Char) : Word :=
  let (name, value) := nameAndValue s
  match specs.find? fun spec => spec.long = s with
  | some spec => .long spec none
  | none =>
    match specs.find? fun spec => spec.long = name with
    | some spec => .long spec value
    | none =>
      match specs.filter fun spec => name.isPrefixOf spec.long with
      | [] => hyphenated ('-' :: s)
      | [spec] => .long spec value
      | _ => .ambiguous

/-- What a word is, as long as options may stand. -/
def classify (specs : List Spec) (word : String) : Word :=
  match word.toList with
  | '-' :: '-' :: s => classifyLong specs s
  | '-' :: c :: tail =>
    match specs.find? fun spec => spec.short = some c with
    | some spec => .short spec tail
    | none => hyphenated (c :: tail)
  | _ => .plain

/-! ## Reading -/

def helpStatus : Nat := 0

def usageStatus : Nat := 2

/-- A command line that makes sense. -/
structure Arguments where
  config : Option String
  verbose : Bool
  remote : String
  command : String
  operands : List String
  deriving DecidableEq, Repr

def commands : List (String × Nat) :=
  [("ls", 1), ("stat", 1), ("mkdir", 1), ("rmdir", 1), ("rm", 1), ("pwd", 0), ("mv", 2)]

/-- The switches of the letters of one word, and whether it ends in letters that are no options. An
equals sign or a hyphen behind a letter makes no sense. -/
def cluster (specs : List Spec) (spec : Spec) : List Char → Except Nat (List Switch × Bool)
  | [] => .ok ([spec.switch], false)
  | c :: tail =>
    if c = '=' ∨ c = '-' then .error usageStatus
    else match specs.find? fun next => next.short = some c with
      | none => .ok ([spec.switch], true)
      | some next => do
        let (switches, surplus) ← cluster specs next tail
        return (spec.switch :: switches, surplus)

/-- Whether a word with one hyphen ends in letters that are no options, unless it asks for help. -/
def readCluster (specs : List Spec) (spec : Spec) (tail : List Char) : Except Nat Bool := do
  let (switches, surplus) ← cluster specs spec tail
  if switches.contains .help then .error helpStatus else .ok surplus

/-- Whether a word stands for itself, options having ended or not. -/
def isPlain (specs : List Spec) (ended : Bool) (word : String) : Bool :=
  ended || (word != "--" && classify specs word = .plain)

/-- The operands of a command that takes `count` of them: the words that are none of its options.
Words left over are an error only when all else was read. -/
def readOperands (count : Nat) (ended : Bool) (found : List String) (surplus : Bool) :
    List String → Except Nat (List String)
  | [] => if surplus || found.length != count then .error usageStatus else .ok found
  | word :: words =>
    if isPlain commandSpecs ended word then
      if found.length < count then readOperands count ended (found ++ [word]) surplus words
      else readOperands count ended found true words
    else if word = "--" then readOperands count true found (surplus || count = 0) words
    else match classify commandSpecs word with
      | .long _ none => .error helpStatus
      | .short spec tail => do
        let more ← readCluster commandSpecs spec tail
        readOperands count ended found (surplus || more) words
      | .unknown => readOperands count ended found true words
      | _ => .error usageStatus

structure Preamble where
  config : Option String := none
  verbose : Bool := false
  remote : Option String := none
  /-- Options may not stand any more. -/
  ended : Bool := false
  /-- A word came that is no option. -/
  surplus : Bool := false
  /-- An option came after the remote. -/
  separated : Bool := false
  deriving DecidableEq, Repr

/-- The command, and the words after it. -/
def readCommand (p : Preamble) (remote command : String) (words : List String) :
    Except Nat Arguments :=
  match commands.lookup command with
  | none => .error usageStatus
  | some count => do
    let operands ← readOperands count false [] false words
    if p.surplus then .error usageStatus
    else return { config := p.config, verbose := p.verbose, remote, command, operands }

/-- The words up to the command, and then the command. The word that ends the options goes with the
remote; behind another option it would stand in the place of the command. -/
def readPreamble (p : Preamble) : List String → Except Nat Arguments
  | [] => .error usageStatus
  | [word] =>
    if isPlain mainSpecs p.ended word then
      match p.remote with
      | none => .error usageStatus
      | some remote => readCommand p remote word []
    else match classify mainSpecs word with
      | .short spec tail => do
        let _ ← readCluster mainSpecs spec tail
        .error usageStatus
      | .long spec none => if spec.switch = .help then .error helpStatus else .error usageStatus
      | _ => .error usageStatus
  | word :: next :: words =>
    let p' := { p with separated := p.remote.isSome }
    if isPlain mainSpecs p.ended word then
      match p.remote with
      | none => readPreamble { p with remote := some word } (next :: words)
      | some remote => readCommand p remote word (next :: words)
    else if word = "--" then
      if p.separated then .error usageStatus
      else readPreamble { p with ended := true } (next :: words)
    else match classify mainSpecs word with
      | .unknown => readPreamble { p' with surplus := true } (next :: words)
      | .short spec tail => do
        let more ← readCluster mainSpecs spec tail
        readPreamble { p' with verbose := true, surplus := p.surplus || more } (next :: words)
      | .long spec value =>
        match spec.switch, value with
        | .config, some v =>
          readPreamble { p' with config := some (String.ofList v) } (next :: words)
        | .config, none =>
          if isPlain mainSpecs false next then readPreamble { p' with config := some next } words
          else .error usageStatus
        | .help, none => .error helpStatus
        | .verbose, none => readPreamble { p' with verbose := true } (next :: words)
        | _, some _ => .error usageStatus
      | _ => .error usageStatus

namespace Arguments

/-- Whether a word before the end of the options stands for several of them. -/
def hasAmbiguous (words : List String) : Bool :=
  (words.takeWhile (· ≠ "--")).any fun word => classify mainSpecs word = .ambiguous

def read (words : List String) : Except Nat Arguments :=
  if hasAmbiguous words then .error usageStatus else readPreamble {} words

end Arguments
end FileTransfer.CommandLine
