import SwiftForms.Engine.Sql.Scalar
import SwiftForms.Engine.Sql.Statement
import SwiftForms.Engine.Connection

/-!
# Settings of a connection

What the pragmas in the parameters of an address do to a connection. Most settings change nothing that
can be seen through a cache, but those that have to read the database fail if it cannot be read, and
those that have to write it fail if it cannot be written. After the pragmas the parameters are checked
that say how times are written and how transactions lock.
-/

namespace SwiftForms

open Sql

/-- The databases of a connection that pragmas are about. -/
inductive Schema where
  /-- The database itself. -/
  | main
  /-- The database for temporary tables. -/
  | temp
  deriving DecidableEq, Repr

/-- The name of a database of a connection. -/
def Schema.name : Schema → Text
  | .main => "main"
  | .temp => "temp"

namespace Connection

/-- A statement that is not valid. -/
def invalid {α : Type} (detail : Text) : Except StoreError α :=
  .error (.failed .logic (some detail))

/-- The database that a pragma is about. -/
def schemaOf (p : Pragma) : Except StoreError Schema :=
  match p.scope with
  | none => .ok .main
  | some token =>
    if token.value.lowered = "main" then .ok .main
    else if token.value.lowered = "temp" then .ok .temp
    else invalid ("unknown database " ++ token.text)

/-- The settings for which the tables are looked up. -/
def tableSettings : List Text :=
  (["auto_vacuum", "cache_size", "default_cache_size", "foreign_key_check", "foreign_key_list",
    "incremental_vacuum", "index_info", "index_list", "index_xinfo", "integrity_check",
    "journal_mode", "max_page_count", "optimize", "page_count", "quick_check", "synchronous",
    "table_info", "table_list", "table_xinfo", "wal_checkpoint"] : List String).map Text.ofString

/-- The numbers at the head of a database that are read only. -/
def fixedNumbers : List Text :=
  (["data_version", "freelist_count"] : List String).map Text.ofString

/-- The numbers at the head of a database that can be written. -/
def freeNumbers : List Text :=
  (["application_id", "schema_version", "user_version"] : List String).map Text.ofString

/-- The settings that check tables, one of them if it is named. -/
def tableChecks : List Text :=
  (["foreign_key_check", "integrity_check", "quick_check"] : List String).map Text.ofString

/-- The encodings that a database can have. -/
def encodings : List Text :=
  (["utf8", "utf-8", "utf-16le", "utf-16be", "utf16le", "utf16be", "utf-16", "utf16"]
    : List String).map Text.ofString

/-- The check before a database of the connection is written. That for temporary tables can be written
even if the database itself cannot. -/
def checkChange (c : Connection) : Schema → Except StoreError Unit
  | .main => c.checkWrite
  | .temp => if c.queryOnly then c.checkPermission else .ok ()

/-- Whether a value asks that free pages be given back. -/
def asksVacuum (value : Text) : Bool :=
  value.lowered = "full" || value.lowered = "incremental" ||
    leadingNumber? value = some 1 || leadingNumber? value = some 2

/-- The connection with a journal. One that may only read can neither begin nor end a log. -/
def withJournal (c : Connection) (journal : Journal) : Except StoreError Connection :=
  if !c.canLog then .ok c
  else if journal = .log then
    if c.journal = .log || !c.lockable then .ok c
    else if c.readOnly then .error (.failed .readOnly none)
    else if c.hasJournalName then .ok { c with journal := .log }
    else .error (.failed .cannotOpen none)
  else if c.journal = .log && c.readOnly then .error (.failed .lock none)
  else .ok { c with journal := journal }

/-- The connection with a limit on the pages, which never cuts off pages that are filled. Zero is no
limit. -/
def withPageLimit (c : Connection) (limit : Nat) : Connection :=
  if limit = 0 then c else { c with pageLimit := some (max limit c.pages) }

/-- Whether the table that a check names, if it names one, is there. A number is not a name to the
checks that can report a number of errors. -/
def checkTable (c : Connection) (p : Pragma) (schema : Schema) : Except StoreError Unit :=
  match p.argument with
  | none => .ok ()
  | some value =>
    if p.name.lowered ≠ "foreign_key_check" && (leadingNumber? value).isSome then .ok ()
    else if c.hasTable value && (schema = .main || value.lowered.startsWith "sqlite_") then .ok ()
    else if p.scope.isSome then invalid ("no such table: " ++ schema.name ++ "." ++ value)
    else invalid ("no such table: " ++ value)

/-- The connection after a setting for which the tables have been looked up. -/
def setTables (c : Connection) (p : Pragma) (schema : Schema) : Except StoreError Connection := do
  let name := p.name.lowered
  if tableChecks.contains name then
    c.checkTable p schema
    return c
  match p.argument with
  | some value =>
    if name = "default_cache_size" || name = "incremental_vacuum" then
      c.checkChange schema
      return c
    else if name = "auto_vacuum" then
      if asksVacuum value && (schema = .temp || c.contents = .blank) then c.checkChange schema
      return c
    else if schema = .temp then return c
    else if name = "journal_mode" then
      match Journal.ofName? value with
      | none => return c
      | some journal => c.withJournal journal
    else if name = "max_page_count" then return c.withPageLimit ((wholeNumber? value).getD 0)
    else return c
  | none =>
    if name = "incremental_vacuum" then c.checkChange schema
    return c

/-- The connection after a number at the head of a database has been read or written. -/
def setNumber (c : Connection) (p : Pragma) (schema : Schema) : Except StoreError Connection := do
  if p.argument.isSome && freeNumbers.contains p.name.lowered then c.checkChange schema
  else if schema = .main then c.checkRead
  return c

/-- The connection after its encoding has been set. It stays as it is once the tables of a database
have been looked up. -/
def setEncoding (c : Connection) (value : Text) : Except StoreError Connection :=
  let settled := c.acquainted && c.contents ≠ .blank
  if settled || encodings.contains value.lowered then .ok c
  else invalid ("unsupported encoding: " ++ value)

/-- The connection after a directory for temporary files has been set. -/
def setDirectory (c : Connection) (files : Files) (value : Text) : Except StoreError Connection :=
  if value = [] || (files.locate value).toBool then .ok c
  else invalid "not a writable directory"

/-- The connection after a pragma. A setting that nobody knows is no error. -/
def carryOutPragma (files : Files) (c : Connection) (p : Pragma) : Except StoreError Connection := do
  let schema ← schemaOf p
  let name := p.name.lowered
  if tableSettings.contains name then (← c.acquaint).setTables p schema
  else if fixedNumbers.contains name || freeNumbers.contains name then c.setNumber p schema
  else
    match p.argument with
    | none => if name = "encoding" then c.acquaint else return c
    | some value =>
      if name = "query_only" then return { c with queryOnly := isOn value }
      else if name = "encoding" then c.setEncoding value
      else if name = "temp_store_directory" then c.setDirectory files value
      else return c

/-- The connection after a statement, if it can be read. -/
def carryOutStatement (files : Files) (c : Connection) :
    Except StatementFault Statement → Except StoreError Connection
  | .error fault => invalid fault.message
  | .ok (.pragma p) => c.carryOutPragma files p
  | .ok .other => .ok c

/-- The connection after the pragma with a text, and the statements that may follow it there. -/
def carryOut (files : Files) (c : Connection) (text : Text) : Except StoreError Connection :=
  (Statement.readAll ("pragma " ++ Address.beforeZero text)).foldlM (carryOutStatement files) c

/-- The check of how times are written and, unless that is said, of how transactions lock. -/
def checkFormats (parameters : Parameters) : Except AddressFault Unit :=
  let format := parameters.first "_time_format"
  let locking := parameters.first "_txlock"
  if format ≠ [] then
    if format = "sqlite" then .ok () else .error (.unknownTimeFormat format)
  else if locking = [] || locking.folded = "deferred" || locking.folded = "immediate" ||
      locking.folded = "exclusive" then .ok ()
  else .error (.unknownLocking locking)

/-- The connection with the settings of an address. -/
def configure (files : Files) (c : Connection) (parameters : Parameters) :
    Except StoreError Connection := do
  let ready ← (parameters.values "_pragma").foldlM (carryOut files) c
  Address.blame (checkFormats parameters)
  return ready

/-- The connection to the database at an address, and the files after the attempt. A file that has been
created stays even if the attempt fails later. -/
def connect (files : Files) (text : Text) : Files × Except StoreError Connection :=
  match Address.parse text with
  | .error e => (files, .error e)
  | .ok a =>
    match ofAddress files a with
    | .error failure => (files, .error (.refused failure))
    | .ok (after, c) => (after, c.configure after a.parameters)

/-- The files after the attempt to open the database of an address, and the database. -/
def openDatabase (files : Files) (text : Text) : Files × Except StoreError OpenDatabase :=
  match connect files text with
  | (after, .error e) => (after, .error e)
  | (after, .ok c) => (c.recover after, (c.tables).map c.opened)

/-- The paths of the files that an address names, with those beside the file of its database. -/
def paths (text : Text) : List Text :=
  match Address.parse text with
  | .error _ => []
  | .ok a =>
    a.path :: [Engine.journalEnding, Engine.logEnding, Engine.sharedEnding].map (a.path ++ ·) ++
      (a.option? "modeof").toList

end Connection

/-- The engine whose databases are files of text. -/
def Engine.textual : Engine where
  file? := fun files text => (Address.parse text).toOption.bind (Connection.file? files)
  connect := Connection.openDatabase

end SwiftForms
