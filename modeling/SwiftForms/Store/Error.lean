import SwiftForms.Text.Quoted

/-!
# What goes wrong with a store

The causes for which a store does not answer, and their messages. A database engine reports each of
its failures by a number with a fixed description; a failing statement may add a detail of its own.
-/

namespace SwiftForms

/-- The failures that a database engine reports. -/
inductive EngineFailure where
  /-- A statement or an option is not valid. -/
  | logic
  /-- More access is asked for than has been granted. -/
  | permission
  /-- A database that may only be read would have to be written. -/
  | readOnly
  /-- A file cannot be read. -/
  | inputOutput
  /-- A file cannot be locked. -/
  | lock
  /-- The database would have to grow beyond its limit. -/
  | full
  /-- A file cannot be opened or created. -/
  | cannotOpen
  /-- The file holds something else than a database. -/
  | notDatabase
  deriving DecidableEq, Repr

/-- The number of a failure. -/
def EngineFailure.number : EngineFailure → Nat
  | .logic => 1
  | .permission => 3
  | .readOnly => 8
  | .inputOutput => 10
  | .lock => 3850
  | .full => 13
  | .cannotOpen => 14
  | .notDatabase => 26

/-- The description of a failure. -/
def EngineFailure.describe : EngineFailure → Text
  | .logic => "SQL logic error"
  | .permission => "access permission denied"
  | .readOnly => "attempt to write a readonly database"
  | .inputOutput => "disk I/O error"
  | .lock => "disk I/O error"
  | .full => "database or disk is full"
  | .cannotOpen => "unable to open database file"
  | .notDatabase => "file is not a database"

/-- The message of a failure with a detail, if there is one. -/
def EngineFailure.message (f : EngineFailure) (detail : Option Text) : Text :=
  let start := match detail with
    | none => f.describe
    | some more => f.describe ++ ": " ++ more
  start ++ " (" ++ Text.ofNat f.number ++ ")"

/-- The faults of the address of a database. -/
inductive AddressFault where
  /-- Parameters are divided by a semicolon. -/
  | semicolon
  /-- A percent sign in a parameter starts no escape. -/
  | badEscape (piece : Text)
  /-- Several file systems are asked for. -/
  | conflictingSystems (names : List Text)
  /-- The format for times is unknown. -/
  | unknownTimeFormat (name : Text)
  /-- The way in which transactions lock is unknown. -/
  | unknownLocking (name : Text)
  deriving DecidableEq, Repr

/-- The message of a fault. -/
def AddressFault.message : AddressFault → Text
  | .semicolon => "invalid semicolon separator in query"
  | .badEscape piece => "invalid URL escape " ++ piece.quoted
  | .conflictingSystems names =>
    "conflicting vfs query parameters: [" ++ Text.join " " names ++ "]"
  | .unknownTimeFormat name => "unknown _time_format " ++ name.quoted
  | .unknownLocking name => "unknown _txlock " ++ name.quoted

/-- The causes for which a store does not answer. -/
inductive StoreError where
  /-- The database has been closed. -/
  | closed
  /-- The database was laid out by another version. -/
  | unsupportedSchema (version : Text)
  /-- The address of the database is wrong. -/
  | badAddress (fault : AddressFault)
  /-- The engine does not open the database. -/
  | refused (failure : EngineFailure)
  /-- The engine does not carry out a statement. -/
  | failed (failure : EngineFailure) (detail : Option Text)
  /-- The store is out of order, for a reason of its own. -/
  | outage (reason : Text)
  deriving DecidableEq, Repr

/-- The version of the layout that a database must have. -/
def schemaVersion : Text :=
  "1"

/-- The message of an error. An engine that refuses to open a database has no detail to give, and says
so by the words for a lack of memory. -/
def StoreError.message : StoreError → Text
  | .closed => "sql: database is closed"
  | .unsupportedSchema version =>
    "unsupported schema version: " ++ version ++ " (expected " ++ schemaVersion ++ ")"
  | .badAddress fault => fault.message
  | .refused failure => failure.message (some "out of memory")
  | .failed failure detail => failure.message detail
  | .outage reason => reason

end SwiftForms
