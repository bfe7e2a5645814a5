import FileTransfer.Pool.Basic

/-!
# Commands of the command line

* `Command`, `Command.named`: the commands, by name and words.
* `Problem`: why a command came to nothing.
* `Command.run`: what a command does, and the lines it prints.
-/

namespace FileTransfer.CommandLine
open FileTransfer.Pool FileTransfer.Listing
set_option autoImplicit false

inductive Command where
  | list (path : String)
  | status (path : String)
  | workingDirectory
  | makeDirectory (path : String)
  | removeDirectory (path : String)
  | delete (path : String)
  | rename (source target : String)
  | unknown (name : String)
  deriving DecidableEq, Repr

def Command.named (name : String) (words : List String) : Command :=
  let path := words.headD ""
  if name = "ls" then .list path
  else if name = "stat" then .status path
  else if name = "pwd" then .workingDirectory
  else if name = "mkdir" then .makeDirectory path
  else if name = "rmdir" then .removeDirectory path
  else if name = "rm" then .delete path
  else if name = "mv" then .rename path (words.getD 1 "")
  else .unknown name

inductive Problem where
  | failure (failure : Failure)
  | unknownCommand (name : String)
  deriving DecidableEq, Repr

def Problem.message : Problem → String
  | .failure f => f.message
  | .unknownCommand name => s!"fatal error: unknown command '{name}'."

/-- Whether a problem is told to the user, as opposed to a fault that nobody foresaw. -/
def Problem.isForeseen : Problem → Bool
  | .failure (.fault _) => false
  | _ => true

def printed : Answer → List String
  | .nothing => []
  | .path path => [path]
  | .entries entries => entries.map Entry.row
  | .entry entry => [entry.row]

namespace Command

def operation? : Command → Except Problem Operation
  | .list path => .ok (.readDirectory (.plain path))
  | .status path => .ok (.status (.plain path))
  | .workingDirectory => .ok .workingDirectory
  | .makeDirectory path => .ok (.makeDirectory (.plain path))
  | .removeDirectory path => .ok (.removeDirectory (.plain path))
  | .delete path => .ok (.delete (.plain path))
  | .rename source target => .ok (.rename (.plain source) (.plain target))
  | .unknown name => .error (.unknownCommand name)

/-- Carries out a command over a pool: the lines it prints, or why it came to nothing. -/
def run {ω : Type} [Pool ω] (c : Command) (w : ω) : Except Problem (List String) × ω :=
  match c.operation? with
  | .error problem => (.error problem, w)
  | .ok op =>
    let (result, w) := perform op w
    match result with
    | .error failure => (.error (.failure failure), w)
    | .ok answer => (.ok (printed answer), w)

end Command
end FileTransfer.CommandLine
