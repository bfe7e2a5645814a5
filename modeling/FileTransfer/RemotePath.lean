import FileTransfer.Text.Split

/-!
# Remote paths

A path goes to the server as it is written, or as a path of a file system convention, which is first
brought to its plain form with slashes.

* `RemotePath`: a path as given.
* `RemotePath.wire`: the text that is sent.
-/

namespace FileTransfer
open FileTransfer.Text
set_option autoImplicit false

inductive RemotePath where
  /-- A text that is sent as it is. -/
  | plain (text : String)
  /-- A path with slashes. -/
  | posix (text : String)
  /-- A path with backslashes or slashes, maybe with a drive. -/
  | windows (text : String)
  deriving DecidableEq, Repr

namespace RemotePath

/-- The segments of a path: what stands between slashes, without empty and `.` segments. -/
def segments (s : List Char) : List (List Char) :=
  (pieces '/' s).filter fun p => !p.isEmpty && p != ['.']

/-- Segments after an anchor; with neither, the path names the place itself. -/
def plainForm (anchor : List Char) (parts : List (List Char)) : List Char :=
  if anchor.isEmpty && parts.isEmpty then ['.']
  else anchor ++ ['/'].intercalate parts

/-- The anchor of a path with slashes: one slash for any number but exactly two. -/
def posixAnchor (s : List Char) : List Char :=
  match (s.takeWhile (· = '/')).length with
  | 0 => []
  | 2 => ['/', '/']
  | _ => ['/']

def isDriveLetter (c : Char) : Bool := ('a' ≤ c && c ≤ 'z') || ('A' ≤ c && c ≤ 'Z')

/-- The server and share of a path that starts with two slashes, and what follows them. -/
def share? (s : List Char) : Option (List Char × List Char) :=
  match s with
  | '/' :: '/' :: c :: cs =>
    if c = '/' then none
    else do
      let (server, after) ← cut ['/'] (c :: cs)
      let name := after.takeWhile (· ≠ '/')
      if name.isEmpty && !after.isEmpty then none
      else some ('/' :: '/' :: server ++ '/' :: name, (after.dropWhile (· ≠ '/')).drop 1)
  | _ => none

/-- The mark of a path that is not to be interpreted, and what follows it. Behind it, a share stands
after a word of its own. -/
def literalMark (s : List Char) : List Char × List Char :=
  let mark := "//?/".toList
  let rest := s.drop mark.length
  if !mark.isPrefixOf s then ([], s)
  else if "UNC/".toList.isPrefixOf rest then (mark ++ rest.take 3, '/' :: rest.drop 3)
  else (mark, rest)

def driveAndRest (s : List Char) : List Char × List Char :=
  match s with
  | c :: ':' :: cs => if isDriveLetter c then ([c, ':'], cs) else ([], s)
  | _ => ([], s)

/-- The anchor of a path with a drive or a share, and the path after it. -/
def windowsAnchor (s : List Char) : List Char × List Char :=
  let (mark, s) := literalMark s
  match share? s with
  | some (name, rest) => (mark ++ name.drop (min mark.length 1) ++ ['/'], rest)
  | none =>
    let (drive, rest) := driveAndRest s
    if rest.headD ' ' = '/' then (mark ++ drive ++ ['/'], rest.dropWhile (· = '/'))
    else (mark ++ drive, rest)

def wire : RemotePath → String
  | .plain text => text
  | .posix text =>
    let s := text.toList
    String.ofList (plainForm (posixAnchor s) (segments s))
  | .windows text =>
    let s := text.toList.map fun c => if c = '\\' then '/' else c
    let (anchor, rest) := windowsAnchor s
    String.ofList (plainForm anchor (segments rest))

end RemotePath
end FileTransfer
