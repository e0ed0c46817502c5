import PrimeReasoner.Text.Blank
import PrimeReasoner.Text.Quoted

/-!
# Files and folders

Where a program finds its files: a folder with texts under their names. A path leads through folders to
a file; a point stands for the same place and two points for the one around it.

* `FileError` says why a path cannot be read, and `FileError.message` puts it into words.
* `Folder.read` follows a path from a folder. A path that starts with a slash leads out of it, to where
  only the places that every system has are known.
-/

namespace PrimeReasoner

/-- Why a file cannot be read. -/
inductive FileError where
  /-- There is nothing at the path. -/
  | missing
  /-- The path goes on behind a file. -/
  | notAFolder
  /-- There is a folder at the path. -/
  | isAFolder
  /-- The path or a name in it is too long. -/
  | tooLong
  /-- The path holds a character that no path can hold. -/
  | unspeakable
deriving DecidableEq, Repr

namespace FileError

/-- Is there something at the path, although it cannot be read? -/
def isPresent : FileError → Bool
  | .isAFolder => true
  | _ => false

/-- The error in words. -/
def message (path : String) : FileError → String
  | .missing => s!"[Errno 2] No such file or directory: {Text.quote path}"
  | .notAFolder => s!"[Errno 20] Not a directory: {Text.quote path}"
  | .isAFolder => s!"[Errno 21] Is a directory: {Text.quote path}"
  | .tooLong => s!"[Errno 36] File name too long: {Text.quote path}"
  | .unspeakable => "embedded null byte"

end FileError

/-- A folder with files. -/
structure Folder where
  /-- The texts of the files, by their paths from here. -/
  files : List (String × String) := []
  /-- The paths of further folders in it. -/
  folders : List String := []
  /-- Is this the outermost folder, so that nothing is around it? -/
  outermost : Bool := false

/-- Where a path has led. -/
inductive Place where
  /-- To a folder inside, by the names that lead to it. -/
  | inside (names : List String)
  /-- Out of all that is known. -/
  | outside
  /-- To a file. -/
  | file (text : String)

namespace Folder

/-- The longest name of a file, in bytes. -/
def maxName : Nat := 255

/-- The longest path, in bytes. -/
def maxPath : Nat := 4095

/-- Is there a folder at the path? It may be known only by what is in it. -/
def hasFolder (folder : Folder) (path : String) : Bool :=
  folder.folders.contains path ||
    folder.files.any fun file => (path ++ "/").toList.isPrefixOf file.1.toList

/-- Goes one name further. -/
def step (folder : Folder) (place : Place) (name : String) : Except FileError Place :=
  match place with
  | .file _ => .error .notAFolder
  | .outside =>
    if name = "" || name = "." || name = ".." then .ok .outside
    else if maxName < name.utf8ByteSize then .error .tooLong
    else .error .missing
  | .inside names =>
    if name = "" || name = "." then .ok (.inside names)
    else if name = ".." then
      if names.isEmpty && !folder.outermost then .ok .outside else .ok (.inside names.dropLast)
    else if maxName < name.utf8ByteSize then .error .tooLong
    else
      let names := names ++ [name]
      let path := "/".intercalate names
      match folder.files.lookup path with
      | some text => .ok (.file text)
      | none => if folder.hasFolder path then .ok (.inside names) else .error .missing

/-- The outermost folder, with the places that every system has. -/
def root : Folder where
  files := [("dev/null", "")]
  folders := ["bin", "dev", "etc", "home", "lib", "opt", "proc", "root", "sys", "tmp", "usr", "var"]
  outermost := true

/-- The text at a path from a folder. -/
def read (folder : Folder) (path : String) : Except FileError String := do
  let s := path.toList
  if s.contains '\x00' then throw .unspeakable
  if path.isEmpty then throw .missing
  if maxPath < path.utf8ByteSize then throw .tooLong
  let start := if s.head? == some '/' then root else folder
  let names := (Text.splitWhere (· == '/') s).map String.ofList
  match ← names.foldlM start.step (.inside []) with
  | .file text => return text
  | _ => throw .isAFolder

end Folder

end PrimeReasoner
