import FileTransfer.Failure
import FileTransfer.Settings.Remote
import FileTransfer.Settings.Toml.Document

/-!
# Catalogs of remotes

The remotes of a settings file, one table each, and a warning for each entry that gives none.

* `Catalog`: the remotes under their names, and the warnings.
* `Refusal`: why there is no catalog, or no such remote in it.
* `Catalog.ofTable`, `Catalog.ofBytes?`: the catalog of a table, and of the bytes of a file.
* `Catalog.check?`: a catalog holds at least one remote, and none with a flaw.
* `Catalog.find`: a remote by name.
-/

namespace FileTransfer.Settings
open FileTransfer.Text
set_option autoImplicit false

/-- Remotes under their names, in order, and what was left out. -/
structure Catalog where
  remotes : List (String × Remote)
  warnings : List String := []
  deriving Inhabited

inductive Refusal where
  | noFile
  | fileNotFound (path : String)
  | directory (path : String)
  | malformed
  /-- A whole number has too many digits in decimal; those of one that was to be read are counted. -/
  | longNumeral (digits : Option Nat)
  /-- The type of a remote cannot be looked up, being a list or a table. -/
  | compoundType (kind : Value.Kind)
  | noRemotes
  | flawed (name : String) (flaw : Flaw)
  | unknownRemote (name : String) (known : List String)

def Refusal.message : Refusal → String
  | .noFile => "Configuration file not provided"
  | .fileNotFound path => s!"Configuration file not found at {path}"
  | .directory path => s!"[Errno 21] Is a directory: {quoted path}"
  | .malformed => "Failed to parse TOML configuration"
  | .longNumeral (some digits) => Fault.longNumeralMessage digits
  | .longNumeral none =>
    s!"Exceeds the limit ({longestNumeral} digits) for integer string conversion; " ++
      "use sys.set_int_max_str_digits() to increase the limit"
  | .compoundType kind => s!"unhashable type: '{kind.label}'"
  | .noRemotes => "Configuration must contain at least one remote"
  | .flawed name flaw => s!"Remote '{name}': {flaw.message}"
  | .unknownRemote name known =>
    let names := joined ", " known
    s!"Remote '{name}' not found in configuration. Available remotes: {names}"

inductive Omission where
  | notTable
  | noType
  | unknownType (type : Value)
  | flawed (flaw : Flaw)

def Omission.warning (name : String) : Omission → String
  | .notTable => s!"Remote '{name}' configuration must be a table - skipping"
  | .noType => s!"Remote '{name}' missing required 'type' field - skipping"
  | .unknownType type =>
    s!"Unknown remote type '{type.shown}' for remote '{name}' - skipping"
  | .flawed flaw =>
    s!"Invalid configuration for remote '{name}': {flaw.message} - skipping"

/-- The remote of one entry, or why it gives none. A type that is a list or a table cannot even be
looked up, and one that is a very long number cannot be told in a warning. -/
def readEntry (name : String) (value : Value) : Except Refusal (Except Omission Remote) :=
  match value with
  | .table table =>
    match Value.lookup? "type" table with
    | none => .ok (.error .noType)
    | some .null => .ok (.error .noType)
    | some type =>
      match type with
      | .list _ => .error (.compoundType .list)
      | .table _ => .error (.compoundType .table)
      | _ =>
        if !isText remoteType type then
          if type.isTooLong then .error (.longNumeral none) else .ok (.error (.unknownType type))
        else match Remote.ofTable name table with
          | .error flaw => .ok (.error (.flawed flaw))
          | .ok remote =>
            match remote.check? with
            | some flaw => .ok (.error (.flawed flaw))
            | none => .ok (.ok remote)
  | _ => .ok (.error .notTable)

namespace Catalog

/-- What keeps a catalog from being used: that it is empty, or the first remote with a flaw. -/
def check? (c : Catalog) : Option Refusal :=
  if c.remotes.isEmpty then some .noRemotes
  else c.remotes.findSome? fun (name, remote) => remote.check?.map (.flawed name)

/-- One more entry: its remote, or a warning. -/
def add (c : Catalog) (name : String) : Except Omission Remote → Catalog
  | .ok remote => { c with remotes := c.remotes ++ [(name, remote)] }
  | .error omission => { c with warnings := c.warnings ++ [omission.warning name] }

/-- The remotes and warnings of the entries of a table, in order. -/
def ofEntries (c : Catalog) : List (String × Value) → Except Refusal Catalog
  | [] => .ok c
  | (name, value) :: es => do ofEntries (c.add name (← readEntry name value)) es

/-- A catalog that can be used, or why it cannot. -/
def checked (c : Catalog) : Except Refusal Catalog :=
  match c.check? with
  | some refusal => .error refusal
  | none => .ok c

def ofTable (entries : List (String × Value)) : Except Refusal Catalog := do
  (← ofEntries ⟨[], []⟩ entries).checked

/-- The catalog of the bytes of a settings file, if there is a file. -/
def ofBytes? : Option (List UInt8) → Except Refusal Catalog
  | none => .error .noFile
  | some bytes =>
    match Utf8.decode true bytes with
    | .error _ => .error .malformed
    | .ok (text, _) =>
      match Toml.read (String.ofList text) with
      | .error .malformed => .error .malformed
      | .error (.longNumeral digits) => .error (.longNumeral (some digits))
      | .ok entries => ofTable entries

def find (c : Catalog) (name : String) : Except Refusal Remote :=
  match c.remotes.find? (·.1 = name) with
  | some (_, remote) => .ok remote
  | none => .error (.unknownRemote name (c.remotes.map (·.1)))

/-- The names of the remotes, each with its type. -/
def types (c : Catalog) : List (String × Value) := c.remotes.map fun (name, r) => (name, r.type)

end Catalog
end FileTransfer.Settings
