import FileTransfer.Text.Split

/-!
# Settings files

Where the settings file is, and what is found there.

* `defaultConfig`, `expandHome`: the path of the settings file; a tilde is the home directory.
* `Found`: what a path leads to.
* `Folder`: a directory of files, which is both the home and the working directory.
-/

namespace FileTransfer.CommandLine
open FileTransfer.Text
set_option autoImplicit false

/-- The settings file where no other is named. -/
def defaultConfig : String := "~/.ftpfsconf.toml"

/-- A path with a tilde in front of its first slash replaced by the home directory. -/
def expandHome (home path : String) : String :=
  match path.toList with
  | '~' :: rest =>
    if rest.headD '/' = '/' then
      let full := dropEnd (· = '/') home.toList ++ rest
      if full.isEmpty then "/" else String.ofList full
    else path
  | _ => path

inductive Found where
  | missing
  | directory
  | file (bytes : List UInt8)
  deriving DecidableEq, Repr

structure Folder where
  path : String
  files : List (String × List UInt8)

namespace Folder

/-- The part of a path below the directory; nothing for a path that leads elsewhere. -/
def below? (f : Folder) (path : List Char) : Option (List Char) :=
  let root := f.path.toList
  if root.isPrefixOf path && (path.drop root.length).headD '/' = '/' then
    some (path.drop root.length)
  else if path.headD ' ' = '/' then none
  else some path

/-- What a path leads to. Segments that are empty or a point lead nowhere else, those of two points
out of the directory. -/
def find (f : Folder) (path : String) : Found :=
  if path.isEmpty then .missing
  else match f.below? path.toList with
    | none => if path.toList.all (· = '/') then .directory else .missing
    | some rest =>
      match (pieces '/' rest).filter fun s => !s.isEmpty && s != ['.'] with
      | [] => .directory
      | [name] =>
        match f.files.lookup (String.ofList name) with
        | some bytes => .file bytes
        | none => if name = ['.', '.'] then .directory else .missing
      | names => if names.all (· = ['.', '.']) then .directory else .missing

end Folder
end FileTransfer.CommandLine
