import FileTransfer.Dialogue.Command
import FileTransfer.Listing.Fact
import FileTransfer.RemotePath

/-!
# Operations on remote files

Each operation holds one connection while it talks to the server; what it was told is decoded after
that.

* `Operation`: the operations.
* `Operation.dialogue`: what an operation does with its connection, and what it is told.
* `Told`, `Answer`, `Told.answer`: what an operation is told, and what it tells its caller.
* `Operation.plan`: the command lines of an operation that meets with no failure.
-/

namespace FileTransfer
open FileTransfer.Text FileTransfer.Reply FileTransfer.Listing
set_option autoImplicit false

inductive Operation where
  | delete (path : RemotePath)
  | rename (source target : RemotePath)
  | makeDirectory (path : RemotePath)
  | removeDirectory (path : RemotePath)
  | workingDirectory
  | readDirectory (path : RemotePath)
  | status (path : RemotePath)
  deriving DecidableEq, Repr

inductive Told where
  | nothing
  | path (path : String)
  | listing (lines : List String)
  | about (lines : List String)
  deriving DecidableEq, Repr

inductive Answer where
  | nothing
  | path (path : String)
  | entries (entries : List Entry)
  | entry (entry : Entry)
  deriving DecidableEq, Repr

/-! ## Talking -/

namespace Dialogue

def coded (code : NamedCode) : Expected := .code code.number

/-- A command whose reply quotes a path. -/
def pathCommand (line : String) : Dialogue Told := do
  let r ← command line
  if r.code = NamedCode.pathCreated.number then
    Told.path <$> .done (DirectoryName.read r.message)
  else wrongReply line r

/-- A command whose reply is the answer, line by line. -/
def replyCommand (line : String) : Dialogue (List String) := do
  let r ← command line
  if Category.positiveCompletion.covers r.code then
    return (pieces '\n' r.message.toList).map String.ofList
  else
    say s!"unexpected response to {line}: {r.code}-{r.message}"
    wrongReply line r

/-- Reads the data of a command. A failure of the channel, or data that is no text, is kept for
later; the lines that came before it count as read. -/
def collect (line : String) : Dialogue (List String × Option Failure) := do
  let (lines, failure?) ← dataLines
  match failure? with
  | none => return (lines, none)
  | some (.fault f) =>
    if f.isOutage || f.isInvalid then
      say s!"error reading {line} data: {f.message}"
      return (lines, some (.dataBroken line f))
    else fail (.fault f)
  | some failure => fail failure

/-- Closes the data channel; that the system fails to is only noted. -/
def closeQuietly : Dialogue Unit := do
  match ← closeChannel.attempt with
  | .ok () => pure ()
  | .error failure =>
    if failure.isFault Fault.isSystem then say s!"error closing data connection: {failure.message}"
    else fail failure

/-- A command whose answer comes on a data channel. Once the server has begun to send, its last
reply is read whatever became of the data; a bad last reply counts more than broken data. -/
def dataCommand (line : String) : Dialogue (List String) := do
  openChannel
  let outcome ← attempt do
    expect (.category .positivePreliminary) line
    collect line
  closeQuietly
  let (lines, broken?) ← .done outcome
  let r ← reply
  if !Category.positiveCompletion.covers r.code then
    say s!"unexpected result: {r.code}-{r.message}"
    wrongReply line r
  else match broken? with
    | some failure => fail failure
    | none => return lines

end Dialogue

namespace Operation
open Dialogue

def dialogue : Operation → Dialogue Told
  | .delete path => do
    expect (coded .fileActionOk) ("DELE " ++ path.wire)
    return .nothing
  | .rename source target => do
    expect (coded .fileActionPending) ("RNFR " ++ source.wire)
    expect (coded .fileActionOk) ("RNTO " ++ target.wire)
    return .nothing
  | .makeDirectory path => pathCommand ("MKD " ++ path.wire)
  | .removeDirectory path => do
    expect (coded .fileActionOk) ("RMD " ++ path.wire)
    return .nothing
  | .workingDirectory => pathCommand "PWD"
  | .readDirectory path => .listing <$> dataCommand ("MLSD " ++ path.wire)
  | .status path => .about <$> replyCommand ("MLST " ++ path.wire)

/-- The command lines of an operation that meets with no failure. -/
def plan : Operation → List String
  | .delete path => ["DELE " ++ path.wire]
  | .rename source target => ["RNFR " ++ source.wire, "RNTO " ++ target.wire]
  | .makeDirectory path => ["MKD " ++ path.wire]
  | .removeDirectory path => ["RMD " ++ path.wire]
  | .workingDirectory => ["PWD"]
  | .readDirectory path => ["MLSD " ++ path.wire]
  | .status path => ["MLST " ++ path.wire]

end Operation

/-! ## Decoding -/

namespace Told

def withoutEnd (line : String) : String :=
  String.ofList (dropEnd (fun c => c = '\r' || c = '\n') line.toList)

/-- The entries of a listing, without the directory itself and its parent. One line that cannot be
decoded fails the listing. -/
def entries : List String → Except Failure (List Entry)
  | [] => .ok []
  | line :: lines => do
    let entry? ← Entry.read (withoutEnd line) true
    let later ← entries lines
    return entry?.toList ++ later

/-- The entry of a reply of three lines; the middle one is the fact line, indented. -/
def entry : List String → Except Failure Entry
  | [_, line, _] => do
    match ← Entry.read (String.ofList (line.toList.dropWhile (· = ' '))) false with
    | some e => return e
    | none => throw (.undecodable (.malformedEntry line))
  | lines => .error (.undecodable (.entryReply lines))

def answer : Told → Except Failure Answer
  | .nothing => .ok .nothing
  | .path p => .ok (.path p)
  | .listing lines => .entries <$> entries lines
  | .about lines => .entry <$> entry lines

/-- What is noted about the decoding: that a listing could not be decoded. -/
def notes (t : Told) : List String :=
  match t, t.answer with
  | .listing _, .error (.undecodable what) => [s!"error in read_dir: {what.message}"]
  | _, _ => []

end Told
end FileTransfer
