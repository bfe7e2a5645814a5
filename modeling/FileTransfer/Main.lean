import FileTransfer.CommandLine.Program
import FileTransfer.CommandLine.Transcript

/-!
# The command line

Reads the arguments, the settings file and a transcript of the remote's side from standard input,
runs the program on them, and prints what it reports.

* `usage`: how the program is called.
* `find`: what the path of the settings file leads to.
* `Report.print`: prints a report and gives its exit status.
-/

namespace FileTransfer.CommandLine
set_option autoImplicit false

def usage : String :=
  "usage: file-transfer [-h] [--config CONFIG] [-v] remote command ...\n"
    ++ "commands: " ++ ", ".intercalate (commands.map Prod.fst)

def find (path : String) : IO Found := do
  try
    let bytes ← IO.FS.readBinFile path
    return .file bytes.toList
  catch
    | .noFileOrDirectory .. => return .missing
    | .inappropriateType .. => return .directory
    | e => throw e

/-- Prints a report, with the notes if they are asked for, and gives the exit status. -/
def Report.print (r : Report) (verbose : Bool) : IO UInt32 := do
  IO.print r.printed
  if verbose then r.trace.notes.forM (IO.eprintln ·)
  IO.eprint r.warned
  match r.ending with
  | .ok status => return status.toUInt32
  | .error mishap =>
    IO.eprintln s!"fault: {mishap.message}"
    return 1

end FileTransfer.CommandLine

def main (words : List String) : IO UInt32 := do
  match FileTransfer.CommandLine.Arguments.read words with
  | .error status =>
    if status = 0 then IO.println FileTransfer.CommandLine.usage
    else IO.eprintln FileTransfer.CommandLine.usage
    return status.toUInt32
  | .ok arguments =>
    let home := (← IO.getEnv "HOME").getD ""
    let found ← FileTransfer.CommandLine.find (arguments.configPath home)
    let text ← (← IO.getStdin).readToEnd
    match FileTransfer.CommandLine.Transcript.read text with
    | .error number =>
      IO.eprintln s!"transcript: line {number} makes no sense"
      return 1
    | .ok scripts =>
      (FileTransfer.CommandLine.run arguments home found scripts).print arguments.verbose
