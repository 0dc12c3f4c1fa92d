import SwiftForms.Files
import SwiftForms.Store.Cache

/-!
# Database engines

What is asked of the engine that keeps a database in files. It opens the database of an address, which
may create the file for it, and hands over the tables or says why it cannot. It keeps the tables in
their file as they change, and once more when the database is closed. How it does so is left to the
engine. The database of an address is in one file, or in none, and the engine may use three more files
beside that one, which have its name with an ending of their own.
-/

namespace SwiftForms

/-- A database that an engine has opened. -/
structure OpenDatabase where
  /-- The tables, as they have been found or laid out. -/
  tables : Database
  /-- The services that the engine refuses, with the reason that it gives for each. -/
  outages : List (Service × Text)
  /-- Whether the engine has room for tables. -/
  room : Database → Bool
  /-- The files after the engine has kept tables. -/
  save : Database → Files → Files
  /-- The files after the database has been closed with these tables. -/
  close : Database → Files → Files

/-- The cache over an open database with its tables in some state. -/
def OpenDatabase.cache (d : OpenDatabase) (state : Database) : Cache where
  store := .database state
  hasMetadata := true
  outages := d.outages
  room := fun store => store.tables?.all d.room

/-- A database engine. -/
structure Engine where
  /-- The names of the file for the database of an address, unless it is kept in none. -/
  file? : Files → Text → Option (List Text)
  /-- The files after the attempt to open the database of an address, and the database. -/
  connect : Files → Text → Files × Except StoreError OpenDatabase

namespace Engine

/-- The ending of the file that undoes changes. -/
def journalEnding : Text :=
  "-journal"

/-- The ending of the file in which changes are gathered. -/
def logEnding : Text :=
  "-wal"

/-- The ending of the file through which those who share a log know what it holds. -/
def sharedEnding : Text :=
  "-shm"

/-- The names of a file in the same directory, whose own name has an ending added to it. -/
def beside (names : List Text) (ending : Text) : List Text :=
  names.dropLast ++ [names.getLastD [] ++ ending]

/-- The places at which an engine may have files for the database of an address. -/
def places (engine : Engine) (files : Files) (address : Text) : List (List Text) :=
  match engine.file? files address with
  | none => []
  | some names => names :: [journalEnding, logEnding, sharedEnding].map (beside names)

end Engine

end SwiftForms
