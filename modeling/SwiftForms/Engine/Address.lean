import SwiftForms.Engine.Sql.Scalar
import SwiftForms.Engine.Parameters

/-!
# Addresses of databases

The address of a database is the path of a file, or a URI that starts with `file:`, and may end in
parameters after a question mark. In a URI escapes are undone, and some of the parameters are options
for the engine: how the file may be used, through which file system it is reached, and whether it is
taken never to change.
-/

namespace SwiftForms

/-- What may be done with a database. -/
inductive AccessMode where
  /-- A file is read only. -/
  | readOnly
  /-- A file is read and written. -/
  | readWrite
  /-- A file is read and written, and created if it is missing. -/
  | create
  /-- No file is used; the database is kept in memory. -/
  | memory
  deriving DecidableEq, Repr

namespace AccessMode

/-- The mode of a name. -/
def ofName? (name : Text) : Option AccessMode :=
  if name = "ro" then some .readOnly
  else if name = "rw" then some .readWrite
  else if name = "rwc" then some .create
  else if name = "memory" then some .memory
  else none

/-- How much a mode asks for. -/
def demand : AccessMode → Nat
  | .memory => 0
  | .readOnly => 1
  | .readWrite => 2
  | .create => 3

/-- How much can be asked for when a mode is given up for another. -/
def grant : AccessMode → Nat
  | .readOnly => 1
  | .readWrite => 2
  | .create => 3
  | .memory => 3

end AccessMode

/-- The file systems through which a database can be reached. -/
inductive FileSystem where
  /-- Files with locks. -/
  | plain
  /-- Files with locks, each held until the database is closed. -/
  | exclusive
  /-- Files without locks. -/
  | lockless
  /-- Files with other files for locks. -/
  | dotFile
  /-- Memory in place of files. -/
  | memory
  deriving DecidableEq, Repr

/-- The file system of a name. -/
def FileSystem.ofName? (name : Text) : Option FileSystem :=
  if name = "unix" then some .plain
  else if name = "unix-excl" then some .exclusive
  else if name = "unix-none" then some .lockless
  else if name = "unix-dotfile" then some .dotFile
  else if name = "memdb" then some .memory
  else none

/-- Where a database is kept. -/
inductive Location where
  /-- In memory. -/
  | memory
  /-- In a file without a name, which nobody finds again. -/
  | temporary
  /-- In the file at a path. -/
  | file (path : Text)
  deriving DecidableEq, Repr

/-- An address that has been read. -/
structure Address where
  /-- The path, empty for a temporary database. -/
  path : Text
  /-- The options for the engine. -/
  options : Parameters
  /-- What may be done with the database. -/
  mode : AccessMode
  /-- The file system. -/
  system : FileSystem
  /-- The parameters. -/
  parameters : Parameters
  deriving Repr

namespace Address

/-- The start of a URI. -/
def scheme : Text :=
  "file:"

/-- The text before the first zero character. -/
def beforeZero (t : Text) : Text :=
  t.takeWhile fun g => g ≠ .char '\x00'

/-- The parts of an address before and after its first question mark, which is not its first glyph. -/
def parts (t : Text) : Text × Text :=
  match t with
  | [] => ([], [])
  | g :: rest =>
    if g = .char '?' then (t, [])
    else (g :: rest.takeWhile fun h => h ≠ .char '?', (rest.dropWhile fun h => h ≠ .char '?').drop 1)

/-- The name of the file system that the parameters ask for. Once it has been named, it cannot be
named otherwise. -/
def systemName (parameters : Parameters) : Except AddressFault (Option Text) := do
  let name ← (parameters.values "vfs").foldlM (fun chosen name =>
    if chosen = [] ∨ chosen = name then .ok name
    else .error (.conflictingSystems (parameters.values "vfs"))) []
  return if name = [] then none else some (beforeZero name)

/-- What follows the authority of a URI, which must be empty or the local host. -/
def withoutAuthority (t : Text) : Except EngineFailure Text :=
  match t with
  | .char '/' :: .char '/' :: rest =>
    let authority := rest.takeWhile fun g => g ≠ .char '/'
    if authority = [] ∨ authority = "localhost" then
      .ok (rest.dropWhile fun g => g ≠ .char '/')
    else .error .logic
  | _ => .ok t

/-- The options of the part of a URI after the question mark. Those without a name do not count. -/
def optionsOf (t : Text) : Parameters :=
  ((Parameters.fields t).map fun field =>
    ((Parameters.sides field).1.unescaped, (Parameters.sides field).2.unescaped)).filter
      fun option => !option.1.isEmpty

/-- The path and the options of a URI without its scheme. A number sign ends them. -/
def pathAndOptions (t : Text) : Except EngineFailure (Text × Parameters) := do
  let body ← withoutAuthority t
  let used := body.takeWhile fun g => g ≠ .char '#'
  let path := used.takeWhile fun g => g ≠ .char '?'
  return (Text.unescaped path, optionsOf (used.drop (path.length + 1)))

/-- The access mode and the name of the file system after one more option. -/
def applyOption (chosen : AccessMode × Option Text) (option : Text × Text) :
    Except EngineFailure (AccessMode × Option Text) :=
  if option.1 = "vfs" then .ok (chosen.1, some option.2)
  else if option.1 = "cache" then
    if option.2 = "shared" ∨ option.2 = "private" then .ok chosen else .error .logic
  else if option.1 = "mode" then
    match AccessMode.ofName? option.2 with
    | none => .error .logic
    | some mode => if mode.demand ≤ chosen.1.grant then .ok (mode, chosen.2) else .error .permission
  else .ok chosen

/-- The file system of a name, or the usual one. -/
def findSystem : Option Text → Except EngineFailure FileSystem
  | none => .ok .plain
  | some name =>
    match FileSystem.ofName? name with
    | none => .error .logic
    | some system => .ok system

/-- The address with what its options choose. -/
def choose (path : Text) (options parameters : Parameters) (system : Option Text) :
    Except EngineFailure Address := do
  let (mode, name) ← options.foldlM applyOption (.create, system)
  return ⟨path, options, mode, ← findSystem name, parameters⟩

/-- An error of the engine as an error of the store. -/
def refuse {α : Type} (result : Except EngineFailure α) : Except StoreError α :=
  match result with
  | .ok a => .ok a
  | .error failure => .error (.refused failure)

/-- A fault of an address as an error of the store. -/
def blame {α : Type} (result : Except AddressFault α) : Except StoreError α :=
  match result with
  | .ok a => .ok a
  | .error fault => .error (.badAddress fault)

/-- The address that a text spells. -/
def parse (t : Text) : Except StoreError Address := do
  let parameters ← blame (Parameters.parse (parts t).2)
  let system ← blame (systemName parameters)
  match Text.dropStart? scheme (beforeZero t) with
  | some uri =>
    let (path, options) ← refuse (pathAndOptions uri)
    refuse (choose path options parameters system)
  | none => refuse (choose (beforeZero (parts t).1) [] parameters system)

/-- Where the database is kept. -/
def location (a : Address) : Location :=
  if a.path = ":memory:" ∨ a.mode = .memory then .memory
  else if a.path = [] then .temporary
  else if a.system = .memory then .memory
  else .file a.path

/-- The first value of an option. -/
def option? (a : Address) (name : Text) : Option Text :=
  a.options.lookup name

/-- Whether an option is switched on. -/
def isOn (a : Address) (name : Text) : Bool :=
  match a.option? name with
  | none => false
  | some value => Sql.isOn value

/-- Whether the database is taken never to change. That can be said of databases with a name only. -/
def isImmutable (a : Address) : Bool :=
  a.isOn "immutable" && a.path ≠ [] && a.path ≠ ":memory:" && a.mode ≠ .memory

/-- Whether the database can be locked in the usual way. -/
def isLockable (a : Address) : Bool :=
  !a.isOn "nolock" && (a.system = .plain || a.system = .exclusive)

end Address

end SwiftForms
