import DocBrowser.Fields
import DocBrowser.Files.Path
/-!
# A folder of files

The files that the program works with, each under its path from the current directory or the root. A
path leads to a file, to a directory, or nowhere; of what stands outside it is known only what is
named here.
-/

namespace DocBrowser

/-- Files with their bytes, and directories that are there whether they hold files or not. -/
structure Folder where
  files : List (String × List UInt8) := []
  directories : List String := []

namespace Folder

/-- Where a path leads. -/
inductive Place where
  | file (bytes : List UInt8)
  | directory
  | missing
  /-- A name on the way is that of a file. -/
  | throughFile

/-- The name of a directory, up to its last slash, is the start of the names of everything in it. -/
def holds (directory key : String) : Bool := (directory ++ "/").toList.isPrefixOf key.toList

/-- What stands at a path on which every step upwards has been taken. -/
def placeAt (folder : Folder) (path : Path) : Place :=
  if path.goesUpOnly then .directory
  else
    let key := path.text
    match field? folder.files key with
    | some bytes => .file bytes
    | none =>
      if folder.files.any (holds key ·.1) || folder.directories.any
          (fun directory => directory = key || holds key directory) then .directory
      else .missing

/-- Where names lead, one after the other, from a place. -/
def walk (folder : Folder) (path : Path) : List (List Char) → Place
  | [] => folder.placeAt path
  | name :: rest =>
    match folder.placeAt path with
    | .directory => walk folder (path.enter name) rest
    | .file _ => .throughFile
    | place => place

/-- Where a path leads in a folder. -/
def find (folder : Folder) (path : Path) : Place := folder.walk path.start path.names

/-- The bytes of a file, if a path leads to one. -/
def bytes? (folder : Folder) (path : Path) : Option (List UInt8) :=
  match folder.find path with
  | .file bytes => some bytes
  | _ => none

/-- Writes a file. -/
def write (folder : Folder) (path : Path) (bytes : List UInt8) : Folder :=
  { folder with files := setField folder.files path.resolved.text bytes }

/-- Makes a directory. -/
def makeDirectory (folder : Folder) (path : Path) : Folder :=
  { folder with directories := folder.directories ++ [path.resolved.text] }

/-- Makes the directories that names lead through from a directory on, unless one of the names is that of a file. -/
def makeWay (folder : Folder) (path : Path) : List (List Char) → Option Folder
  | [] => some folder
  | name :: rest =>
    let next := path.enter name
    match folder.placeAt next with
    | .directory => folder.makeWay next rest
    | .missing => { folder with directories := folder.directories ++ [next.text] }.makeWay next rest
    | .file _ | .throughFile => none

/-- Makes a directory and all directories on the way to it. -/
def makeDirectories (folder : Folder) (path : Path) : Option Folder := folder.makeWay path.start path.names

/-- The files that are new or have other bytes than in an earlier state of the folder. -/
def changedSince (earlier folder : Folder) : List (String × List UInt8) :=
  folder.files.filter fun (key, bytes) => field? earlier.files key ≠ some bytes

end Folder

end DocBrowser
