import FileTransfer.Value.Shown

/-!
# Remotes

A remote is a server that files are kept on, as the settings describe it. Its fields hold whatever
the settings hold; `Remote.check?` says whether a client can use them.

* `Remote`: name, kind, address, account, and limits, with their defaults.
* `Flaw`: what keeps a remote from being used.
* `Remote.check?`: the first flaw of a remote.
* `Remote.ofTable`: the remote of a settings table.
-/

namespace FileTransfer.Settings
open FileTransfer.Number
set_option autoImplicit false

structure Remote where
  name : Value
  type : Value
  host : Value
  port : Value := .whole 21
  username : Value := .text "anonymous"
  password : Value := .text "anonymous@"
  tls : Value := .truth false
  timeout : Value := .real (Binary64.ofDecimal false 30 0)
  maxIdle : Value := .whole 4
  deriving Inhabited

inductive Flaw where
  | noHost
  | wrongType (type : Value)
  | emptyHost
  | badPort
  | badTls
  | badTimeout
  | badMaxIdle

def Flaw.message : Flaw → String
  | .noHost => "FTP configuration requires 'host' field"
  | .wrongType type => s!"Expected type 'ftp', got '{type.shown}'"
  | .emptyHost => "FTP host cannot be empty"
  | .badPort => "FTP port must be an integer between 1 and 65535"
  | .badTls => "TLS setting must be a boolean"
  | .badTimeout => "FTP timeout must be a positive number of seconds"
  | .badMaxIdle => "max_idle must be a non-negative integer"

def remoteType : String := "ftp"

def isText (t : String) : Value → Bool
  | .text s => s = t
  | _ => false

/-- A whole number, or a truth value as 0 or 1, that is a port. -/
def isPort (v : Value) : Bool :=
  match v.integer? with
  | some n => 1 ≤ n && n ≤ 65535
  | none => false

def isTruth : Value → Bool
  | .truth _ => true
  | _ => false

/-- A number that is not zero or less, so that the result of no division passes too; a truth value
is no number. -/
def isDuration : Value → Bool
  | .whole n => 0 < n
  | .real x => x == .nan || x.isPositive
  | _ => false

/-- A whole number from zero on; a truth value is no number. -/
def isCount : Value → Bool
  | .whole n => 0 ≤ n
  | _ => false

namespace Remote

def check? (r : Remote) : Option Flaw :=
  if !isText remoteType r.type then some (.wrongType r.type)
  else if r.host.isBlank then some .emptyHost
  else if !isPort r.port then some .badPort
  else if !isTruth r.tls then some .badTls
  else if !isDuration r.timeout then some .badTimeout
  else if !isCount r.maxIdle then some .badMaxIdle
  else none

/-- The remote of a table: its host is needed, the other fields have defaults. -/
def ofTable (name : String) (table : List (String × Value)) : Except Flaw Remote :=
  match Value.lookup? "host" table with
  | none => .error .noHost
  | some host =>
    let base : Remote := { name := .text name, type := .text remoteType, host }
    let field (key : String) (default : Value) : Value := (Value.lookup? key table).getD default
    .ok { base with
      port := field "port" base.port
      username := field "username" base.username
      password := field "password" base.password
      tls := field "tls" base.tls
      timeout := field "timeout" base.timeout
      maxIdle := field "max_idle" base.maxIdle }

end Remote
end FileTransfer.Settings
