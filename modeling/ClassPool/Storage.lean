/-
Where class files are kept. To read a class file one needs its bytes, and for the log also
where it is and when it was last modified. Storage is therefore no more than a function from
paths to stored files or a reason why there is none; a `Folder` is such storage held in
memory, a directory of files without directories below it.
-/
import ClassPool.Numeral

set_option autoImplicit false

namespace ClassPool

/-- Why there is no file at a path. -/
inductive AccessError where
  | notFound
  | isDirectory
  /-- The path goes through a file as if it were a directory. -/
  | notDirectory
  /-- Another reason, in the words and with the number that the system has for it. -/
  | other (reason : String) (code : Nat)
  deriving Repr, DecidableEq

namespace AccessError

def message : AccessError → String
  | notFound => "No such file or directory (os error 2)"
  | isDirectory => "Is a directory (os error 21)"
  | notDirectory => "Not a directory (os error 20)"
  | other reason code => reason ++ " (os error " ++ Numeral.decimal code ++ ")"

end AccessError

/-- A file as it is found in storage. It has no size of its own: the length that storage keeps for
a file is taken to be the number of its bytes, which holds of every file that nobody changes while
it is read. -/
structure StoredFile where
  /-- The path of the file without detours. -/
  location : String
  bytes : List UInt8
  /-- When the file was last modified, in milliseconds after the epoch. -/
  modified : Int
  deriving DecidableEq

namespace StoredFile

/-- The whole seconds from the epoch to the last modification, unless that was before it. -/
def modifiedSeconds? (file : StoredFile) : Option Nat :=
  if 0 ≤ file.modified then some (file.modified.toNat / 1000) else none

end StoredFile

/-- Storage: what is found at a path. -/
abbrev Storage : Type :=
  String → Except AccessError StoredFile

structure Folder where
  /-- The absolute path of the directory. -/
  location : String
  /-- The files by their names; of two with one name the first counts. -/
  files : List (String × StoredFile)

namespace Folder

/-- Where the steps of a path lead. -/
inductive Place where
  /-- The directory itself. -/
  | inside
  /-- A directory around it, of which nothing else is known. -/
  | outside
  | file (found : StoredFile)

/-- Takes one step from a place. Empty steps and single dots stay where they are, but only in a
directory; behind a file no step leads anywhere. -/
def step (folder : Folder) (place : Place) (name : String) : Except AccessError Place :=
  match place with
  | .file _ => .error .notDirectory
  | .outside => if name = "" || name = "." || name = ".." then .ok .outside else .error .notFound
  | .inside =>
    if name = "" || name = "." then .ok .inside
    else if name = ".." then .ok .outside
    else
      match folder.files.lookup name with
      | some found => .ok (.file found)
      | none => .error .notFound

/-- Follows the steps of a path from a place to a file. -/
def follow (folder : Folder) (place : Place) : List String → Except AccessError StoredFile
  | [] =>
    match place with
    | .file found => .ok found
    | _ => .error .isDirectory
  | name :: rest =>
    match folder.step place name with
    | .ok next => folder.follow next rest
    | .error reason => .error reason

def steps (path : String) : List String :=
  path.splitOn "/"

/-- The file at a path that starts in the directory. -/
def find (folder : Folder) (path : String) : Except AccessError StoredFile :=
  folder.follow .inside (steps path)

/-- The folder as storage whose paths are absolute or start elsewhere: those below the location of
the folder are looked up in it, and nothing is known of any other file. -/
def storage (folder : Folder) : Storage := fun path =>
  let below := folder.location ++ "/"
  if path.startsWith below then folder.find (path.drop below.length).toString
  else if path = "" then .error .notFound
  else folder.follow .outside (steps path)

end Folder

end ClassPool
