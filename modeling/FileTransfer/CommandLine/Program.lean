import FileTransfer.CommandLine.Arguments
import FileTransfer.CommandLine.Command
import FileTransfer.CommandLine.Files
import FileTransfer.Pool.Sessions
import FileTransfer.Settings.Catalog

/-!
# The program

One run of the command line: read the settings, find the remote, carry out the command.

* `loadCatalog`: the catalog of the settings file.
* `Report`: what a run prints, how it ends, and what was seen of it.
* `run`: a run of the program.
-/

namespace FileTransfer.CommandLine
open FileTransfer.Pool FileTransfer.Session FileTransfer.Settings
set_option autoImplicit false

def loadCatalog (path : String) : Found → Except Refusal Catalog
  | .missing => .error (.fileNotFound path)
  | .directory => .error (.directory path)
  | .file bytes => Catalog.ofBytes? (some bytes)

inductive Mishap where
  | refusal (refusal : Refusal)
  | problem (problem : Problem)

def Mishap.message : Mishap → String
  | .refusal r => r.message
  | .problem p => p.message

/-- Whether a refusal is told to the user, as opposed to a fault that nobody foresaw. -/
def isForeseen : Refusal → Bool
  | .directory _ => false
  | .longNumeral _ => false
  | .compoundType _ => false
  | _ => true

def Mishap.isForeseen : Mishap → Bool
  | .refusal r => CommandLine.isForeseen r
  | .problem p => p.isForeseen

def asText (lines : List String) : String := String.join (lines.map (· ++ "\n"))

/-- One run: what it prints, how it ends, and what was seen of it. -/
structure Report where
  printed : String := ""
  warned : String := ""
  /-- The exit status, or the mishap that nobody foresaw. -/
  ending : Except Mishap Nat := .ok 0
  trace : Trace := {}

def Arguments.configPath (a : Arguments) (home : String) : String :=
  expandHome home (a.config.getD defaultConfig)

/-- Carries out the command with a pool for a remote, and closes the pool whatever came of that. A
failure to close takes the place of another problem. -/
def runCommand (c : Command) (pool : SessionPool) :
    List String × Except Problem Unit × SessionPool :=
  let (result, pool) := c.run pool
  let (closed, pool) := Pool.close pool
  let lines := match result with
    | .ok lines => lines
    | .error _ => []
  let ending := match closed, result with
    | .error failure, _ => .error (.failure failure)
    | .ok (), .error problem => .error problem
    | .ok (), .ok _ => .ok ()
  (lines, ending, pool)

/-- A report of a mishap: told to the user with status 1, or passed on. -/
def Report.mishap (r : Report) (m : Mishap) : Report :=
  if m.isForeseen then
    { r with warned := r.warned ++ asText [s!"error: {m.message}"], ending := .ok 1 }
  else { r with ending := .error m }

/-- One run with arguments, given what is found at the path of the settings file, and what the
remote does. -/
def run (a : Arguments) (home : String) (found : Found) (scripts : List Script) : Report :=
  match loadCatalog (a.configPath home) found with
  | .error refusal => ({} : Report).mishap (.refusal refusal)
  | .ok catalog =>
    let report : Report := { warned := asText (catalog.warnings.map ("Warning: " ++ ·)) }
    match catalog.find a.remote with
    | .error refusal => report.mishap (.refusal refusal)
    | .ok remote =>
      let (lines, ending, pool) := runCommand (.named a.command a.operands) { remote, scripts }
      let report := { report with printed := asText lines, trace := pool.network.trace }
      match ending with
      | .ok () => report
      | .error problem => report.mishap (.problem problem)

end FileTransfer.CommandLine
