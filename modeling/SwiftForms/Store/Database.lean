import SwiftForms.Digest
import SwiftForms.Store.Error

/-!
# Databases

A database has two tables, one of compilations and one of metadata, each with a key that no two rows
share. The statements on them are those of SQL: insert a row or update the row with its key, delete
rows, select the row with a key, count rows. The metadata record the version of the layout; opening
writes it into a new database and refuses any other version than its own.
-/

namespace SwiftForms

/-- A compilation in a store. -/
structure Entry where
  /-- The key it is found by, as a rule the digest of its source. -/
  key : Text
  /-- The source text. -/
  source : Text
  /-- The Swift text, without the library. -/
  output : Text
  deriving DecidableEq, Repr, Inhabited

/-- A row of the metadata table. -/
structure MetadataRow where
  /-- The primary key. -/
  key : Text
  /-- The value. -/
  value : Text
  deriving DecidableEq, Repr, Inhabited

/-- The tables of a database, in the order in which their rows were inserted. -/
structure Database where
  /-- The table of compilations. -/
  compilations : List Entry
  /-- The table of metadata. -/
  metadata : List MetadataRow
  deriving DecidableEq, Repr, Inhabited

namespace Database

/-- The database with two empty tables. -/
def create : Database :=
  ⟨[], []⟩

/-- Insert a row, or update the row that has its key. -/
def upsert {α : Type} (key : α → Text) (row : α) : List α → List α
  | [] => [row]
  | first :: rest => if key first = key row then row :: rest else first :: upsert key row rest

/-- The compilation with a key. -/
def get? (db : Database) (key : Text) : Option Entry :=
  db.compilations.find? fun row => row.key = key

/-- The database with a compilation, in place of any other with its key. -/
def put (db : Database) (e : Entry) : Database :=
  { db with compilations := upsert Entry.key e db.compilations }

/-- The database without the compilation with a key. -/
def delete (db : Database) (key : Text) : Database :=
  { db with compilations := db.compilations.filter fun row => row.key ≠ key }

/-- The database without compilations. The metadata stay. -/
def purge (db : Database) : Database :=
  { db with compilations := [] }

/-- The number of compilations. -/
def size (db : Database) : Nat :=
  db.compilations.length

/-- The metadata at a key, empty if there are none. -/
def metadataAt (db : Database) (key : Text) : Text :=
  ((db.metadata.find? fun row => row.key = key).map MetadataRow.value).getD []

/-- The database with metadata at a key. -/
def setMetadata (db : Database) (key value : Text) : Database :=
  { db with metadata := upsert MetadataRow.key ⟨key, value⟩ db.metadata }

/-- The metadata key of the version of the layout. -/
def versionKey : Text :=
  "schema_version"

/-- Opening a database checks the version of its layout, and records it if there is none. -/
def opened (db : Database) : Except StoreError Database :=
  if db.metadataAt versionKey = [] then .ok (db.setMetadata versionKey schemaVersion)
  else if db.metadataAt versionKey = schemaVersion then .ok db
  else .error (.unsupportedSchema (db.metadataAt versionKey))

end Database

end SwiftForms
