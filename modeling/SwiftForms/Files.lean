import SwiftForms.Text.Encoding

/-!
# Files

A tree of files and directories, and what reading, writing and searching it by path gives. A path is
followed name by name, from the root directory if it starts with a slash and from the current
directory otherwise; every name but the last must lead to a directory. The current directory, the
directories above it and the root directory always exist.
-/

namespace SwiftForms

/-- The causes for which a path cannot be used. -/
inductive FileFault where
  /-- Nothing has that name. -/
  | missing
  /-- A name on the way is not that of a directory. -/
  | notDirectory
  /-- The path leads to a directory. -/
  | isDirectory
  /-- A name is too long. -/
  | tooLong
  /-- The path cannot be a path. -/
  | invalid
  deriving DecidableEq, Repr

/-- The words for a cause. -/
def FileFault.describe : FileFault → Text
  | .missing => "no such file or directory"
  | .notDirectory => "not a directory"
  | .isDirectory => "is a directory"
  | .tooLong => "file name too long"
  | .invalid => "invalid argument"

/-- An attempt to use a path that failed. -/
structure FileError where
  /-- What was attempted. -/
  operation : Text
  /-- The path as it was given. -/
  path : Text
  /-- The cause. -/
  fault : FileFault
  deriving DecidableEq, Repr

/-- The message of an error. -/
def FileError.message (e : FileError) : Text :=
  e.operation ++ " " ++ e.path ++ ": " ++ e.fault.describe

/-- What stands in a directory. -/
inductive Node where
  /-- A file with its contents. -/
  | file (contents : Text)
  /-- A directory. -/
  | directory
  deriving DecidableEq, Repr

/-- Files and directories by the names that lead to them. An empty first name stands for the root
directory; without it the names lead from the current directory. -/
structure Files where
  /-- The files and directories that are known. -/
  nodes : List (List Text × Node)
  deriving DecidableEq, Repr, Inhabited

namespace Files

/-- The current directory on its own. -/
def empty : Files :=
  ⟨[]⟩

/-- The name of the directory above. -/
def parentName : Text :=
  ".."

/-- The root directory. -/
def root : List Text :=
  [[]]

/-- The directory that a path starts from. -/
def origin (path : Text) : List Text :=
  if path.startsWith "/" then root else []

/-- Whether names lead to the current directory or to a directory above it. -/
def isUpward (names : List Text) : Bool :=
  names.all fun name => name = parentName

/-- What stands at the end of a list of names. -/
def node? (files : Files) (names : List Text) : Option Node :=
  if names = root || isUpward names then some .directory else files.nodes.lookup names

/-- The files with another node at the end of a list of names. -/
def set (files : Files) (names : List Text) (node : Node) : Files :=
  ⟨(names, node) :: files.nodes.filter fun entry => entry.1 ≠ names⟩

/-- The files without the file at the end of a list of names, if there is one. Directories stay. -/
def removeFile (files : Files) (names : List Text) : Files :=
  if files.node? names = some .directory then files
  else ⟨files.nodes.filter fun entry => entry.1 ≠ names⟩

/-- The names of a path. -/
def namesOf (path : Text) : List Text :=
  path.splitOn (.char '/')

/-- The directory above. -/
def above (names : List Text) : List Text :=
  if names = root then root
  else if isUpward names then names ++ [parentName]
  else names.dropLast

/-- The longest name that can be looked up, in bytes. -/
def longestName : Nat :=
  255

/-- The names that a path leads to from the directory `here`. -/
def follow (files : Files) (here : List Text) : List Text → Except FileFault (List Text)
  | [] => .ok here
  | name :: rest =>
    match files.node? here with
    | none => .error .missing
    | some (.file _) => .error .notDirectory
    | some .directory =>
      if name = [] ∨ name = "." then follow files here rest
      else if name = parentName then follow files (above here) rest
      else if longestName < name.byteSize then .error .tooLong
      else follow files (here ++ [name]) rest

/-- The longest path that can be looked up, in bytes. -/
def longestPath : Nat :=
  4095

/-- A path that can be followed. -/
def check (path : Text) : Except FileFault Unit :=
  if path.contains (.char '\x00') then .error .invalid
  else if path = [] then .error .missing
  else if longestPath < path.byteSize then .error .tooLong
  else .ok ()

/-- What a path leads to. -/
def locate (files : Files) (path : Text) : Except FileFault (List Text × Node) := do
  check path
  let names ← files.follow (origin path) (namesOf path)
  match files.node? names with
  | none => .error .missing
  | some node => .ok (names, node)

/-- The contents of the file that a path leads to. -/
def read (files : Files) (path : Text) : Except FileError Text :=
  match files.locate path with
  | .error fault => .error ⟨"open", path, fault⟩
  | .ok (_, .directory) => .error ⟨"read", path, .isDirectory⟩
  | .ok (_, .file contents) => .ok contents

/-- The names at which a file can be written. -/
def destination (files : Files) (path : Text) : Except FileFault (List Text) := do
  check path
  let trimmed := path.dropEndWhile fun g => g = .char '/'
  let names := namesOf trimmed
  if trimmed.length < path.length then
    let _ ← files.follow (origin path) (names.dropLast ++ [[]])
    .error .isDirectory
  else
    let target ← files.follow (origin path) names
    match files.node? target with
    | some .directory => .error .isDirectory
    | _ => .ok target

/-- The files after a file has been written at a path. -/
def write (files : Files) (path contents : Text) : Except FileError Files :=
  match files.destination path with
  | .error fault => .error ⟨"open", path, fault⟩
  | .ok names => .ok (files.set names (.file contents))

/-- One more name after the names of a shortened path. -/
def cleanStep (names : List Text) (name : Text) : List Text :=
  if name = [] ∨ name = "." then names
  else if name = parentName then above names
  else names ++ [name]

/-- The shortest names that a path spells, judged by its spelling alone. -/
def cleanNames (path : Text) : List Text :=
  (namesOf path).foldl cleanStep (origin path)

/-- One more name after the names of a path that is shortened by its spelling, where what the names
lead to may be missing but must not lead through a file. -/
def resolveStep (files : Files) (start names : List Text) (name : Text) :
    Except FileFault (List Text) :=
  let next := cleanStep names name
  match files.follow start next with
  | .ok _ | .error .missing => .ok next
  | .error fault => .error fault

/-- The names of a path that is shortened by its spelling. What they lead to may be missing. -/
def resolve (files : Files) (path : Text) : Except FileFault (List Text) :=
  (namesOf path).foldlM (files.resolveStep (origin path)) (origin path)

/-- The files with the directories that names lead through, from the directory `here`. -/
def makeDirectories (files : Files) (here : List Text) : List Text → Files
  | [] => files
  | name :: rest =>
    let next := here ++ [name]
    let made := if (files.node? next).isSome then files else files.set next .directory
    made.makeDirectories next rest

/-- The files with a file, or a directory if the path ends in a slash, and the directories above. -/
def add (files : Files) (path contents : Text) : Files :=
  let names := cleanNames path
  if path.endsWith "/" then files.makeDirectories [] names
  else (files.makeDirectories [] names.dropLast).set names (.file contents)

/-- The path of a list of names. -/
def pathOf (names : List Text) : Text :=
  Text.join "/" names

/-- The contents of all files by path. -/
def contents (files : Files) : List (Text × Text) :=
  files.nodes.filterMap fun (names, node) =>
    match node with
    | .file contents => some (pathOf names, contents)
    | .directory => none

/-- Whether names lead to something below a directory. -/
def isBelow (directory names : List Text) : Bool :=
  directory.isPrefixOf names &&
    match names.drop directory.length with
    | first :: _ => first ≠ [] && first ≠ parentName
    | [] => false

/-- The paths of the files below a path whose names end in `ending`, in order. The path may lead to
such a file itself. -/
def search (files : Files) (path ending : Text) : Except FileError (List Text) :=
  match files.locate path with
  | .error fault => .error ⟨"lstat", path, fault⟩
  | .ok (names, .file _) => .ok (if (names.getLastD []).endsWith ending then [path] else [])
  | .ok (names, .directory) =>
    let below := files.nodes.filterMap fun (place, node) =>
      match node with
      | .directory => none
      | .file _ =>
        if isBelow names place && (place.getLastD []).endsWith ending then
          some (pathOf (cleanNames path ++ place.drop names.length))
        else none
    .ok (Text.sort below)

end Files

end SwiftForms
