import SwiftForms.Engine.Address
import SwiftForms.Engine.Basic
import SwiftForms.Engine.Image
import SwiftForms.Engine.Pages

/-!
# Connections

A connection to a database: what its file holds, what may be done with it, and the settings that have
been made. The file is opened, and created if it may be, before any setting is made and before
anything is read from it. The tables are laid out when they are first needed. A journal that somebody
left beside the file is removed when the database is first read or written, and so is a log when the
database is closed, after what it holds has been written to the file.
-/

namespace SwiftForms

/-- The ways in which the changes of a database are made safe. -/
inductive Journal where
  /-- By a file beside the database. -/
  | file
  /-- By memory, or not at all. -/
  | memory
  /-- By a log beside the database, in which the changes are gathered. -/
  | log
  deriving DecidableEq, Repr

/-- The names of journals. -/
def Journal.names : List (Text × Journal) :=
  [("delete", .file), ("persist", .file), ("off", .memory), ("truncate", .file),
    ("memory", .memory), ("wal", .log)]

/-- The first journal whose name starts with a text. -/
def Journal.ofName? (t : Text) : Option Journal :=
  (Journal.names.find? fun named => named.1.startsWith t.lowered).map Prod.snd

/-- A connection to a database. -/
structure Connection where
  /-- The names that lead to the file, unless the database is kept in no file. -/
  place : Option (List Text)
  /-- What the file holds. -/
  contents : DatabaseFile
  /-- Whether the database may only be read. -/
  readOnly : Bool
  /-- Whether the database is taken never to change. -/
  immutable : Bool
  /-- Whether the file can be locked in the usual way. -/
  lockable : Bool
  /-- The journal. -/
  journal : Journal
  /-- Whether the statements of this connection may only read. -/
  queryOnly : Bool
  /-- Whether the tables of the database have been looked up. -/
  acquainted : Bool
  /-- The most pages that the database may fill, if there is a limit. -/
  pageLimit : Option Nat
  deriving Repr

namespace Connection

/-- Whether a log can be kept beside the database. -/
def canLog (c : Connection) : Bool :=
  c.place.isSome && !c.immutable

/-- Whether the name of a journal is one that a file can have. -/
def hasJournalName (c : Connection) : Bool :=
  match c.place with
  | none => true
  | some names =>
    c.journal = .memory ||
      (names.getLastD []).byteSize + Engine.journalEnding.byteSize ≤ Files.longestName

/-- The check before something is read. A log can be read under locks only. -/
def checkRead (c : Connection) : Except StoreError Unit :=
  if c.contents = .foreign then .error (.failed .notDatabase none)
  else if c.canLog && c.journal = .log && !c.lockable then .error (.failed .cannotOpen none)
  else .ok ()

/-- The check of the permission to write. -/
def checkPermission (c : Connection) : Except StoreError Unit :=
  if c.queryOnly || c.readOnly then .error (.failed .readOnly none) else .ok ()

/-- The check before something is written. -/
def checkWrite (c : Connection) : Except StoreError Unit := do
  c.checkPermission
  c.checkRead
  if c.hasJournalName then return () else .error (.failed .cannotOpen none)

/-- The connection after the tables of its database have been looked up. -/
def acquaint (c : Connection) : Except StoreError Connection := do
  c.checkRead
  return { c with acquainted := true }

/-- The number of pages of the database. -/
def pages (c : Connection) : Nat :=
  match c.contents with
  | .tables db _ => db.pages
  | _ => 0

/-- Whether the database has a table. Those that list the tables are there before any other. -/
def hasTable (c : Connection) (name : Text) : Bool :=
  let listing := (["sqlite_master", "sqlite_schema", "sqlite_temp_master", "sqlite_temp_schema"]
    : List String).map Text.ofString
  listing.contains name.lowered ||
    match c.contents with
    | .tables _ _ => name.lowered = "compilations" || name.lowered = "metadata"
    | _ => false

/-- Whether tables are within the limit. -/
def room (c : Connection) (db : Database) : Bool :=
  c.pageLimit.all fun limit => db.pages ≤ limit

/-- The tables, laid out if the file is blank. -/
def tables (c : Connection) : Except StoreError Database := do
  c.checkRead
  match c.contents with
  | .tables db _ => return db
  | _ =>
    c.checkWrite
    if c.room .create then return .create else .error (.failed .full none)

/-- The services that fail on a connection that may only read. -/
def outages (c : Connection) : List (Service × Text) :=
  if c.queryOnly || c.readOnly then
    [Service.put, Service.purge, Service.setMetadata].map fun service =>
      (service, EngineFailure.readOnly.message none)
  else []

/-- Whether tables are other than those in the file. -/
def hasChanged (c : Connection) (db : Database) : Bool :=
  c.contents ≠ .tables db (c.journal = .log)

/-- Whether a journal was left by somebody who had changes to undo. -/
def isHot (journal : Text) : Bool :=
  journal.bytes.head?.any fun byte => byte ≠ 0

/-- The files after the database has been read for the first time. -/
def recover (c : Connection) (files : Files) : Files :=
  match c.place with
  | none => files
  | some names =>
    match files.node? (Engine.beside names Engine.journalEnding) with
    | some (.file journal) =>
      if !c.readOnly && (c.contents = .blank || isHot journal) then
        files.removeFile (Engine.beside names Engine.journalEnding)
      else files
    | _ => files

/-- The files after tables have been kept. A journal is gone when they have been written. -/
def save (c : Connection) (db : Database) (files : Files) : Files :=
  match c.place with
  | none => files
  | some names =>
    if c.hasChanged db then
      let written := files.set names (.file (db.image (c.journal = .log)))
      if c.journal = .file then written.removeFile (Engine.beside names Engine.journalEnding)
      else written
    else files

/-- The files after the database has been closed. What a log has gathered is written to the file. -/
def close (c : Connection) (db : Database) (files : Files) : Files :=
  match c.place with
  | none => files
  | some names =>
    if c.journal = .log && c.canLog && !c.readOnly then
      let written := if c.hasChanged db then files.set names (.file (db.image true)) else files
      (written.removeFile (Engine.beside names Engine.logEnding)).removeFile
        (Engine.beside names Engine.sharedEnding)
    else files

/-- The open database of a connection. -/
def opened (c : Connection) (db : Database) : OpenDatabase where
  tables := db
  outages := c.outages
  room := c.room
  save := c.save
  close := c.close

/-- The names of the file that an address leads to, unless its database is kept in no file. -/
def file? (files : Files) (a : Address) : Option (List Text) :=
  match a.location with
  | .memory | .temporary => none
  | .file path => (files.resolve path >>= files.follow (Files.origin path)).toOption

/-- The file of an address among the files, with those names that lead to it, created if it is missing
and may be created. -/
def openFile (files : Files) (a : Address) (path : Text) :
    Except EngineFailure (Files × List Text × DatabaseFile) :=
  match files.resolve path with
  | .error _ => .error .cannotOpen
  | .ok names =>
    let model := a.option? "modeof"
    if model.any fun other => !(files.locate other).toBool then .error .inputOutput
    else
      match files.follow (Files.origin path) names with
      | .error _ => .error .cannotOpen
      | .ok target =>
        match files.node? target with
        | some (.file contents) => .ok (files, target, .ofText contents)
        | some .directory => .error (if a.mode = .readOnly then .inputOutput else .cannotOpen)
        | none =>
          if a.mode = .create then .ok (files.set target (.file []), target, .blank)
          else .error .cannotOpen

/-- A connection without any setting. -/
def initial (a : Address) (place : Option (List Text)) (contents : DatabaseFile) : Connection where
  place := place
  contents := contents
  readOnly := a.mode = .readOnly || a.isImmutable
  immutable := a.isImmutable
  lockable := a.isLockable
  journal := match contents with
    | .tables _ true => .log
    | _ => .file
  queryOnly := false
  acquainted := false
  pageLimit := none

/-- The connection to the database at an address, and the files after it has been opened. -/
def ofAddress (files : Files) (a : Address) : Except EngineFailure (Files × Connection) :=
  match a.location with
  | .memory | .temporary => .ok (files, initial a none .blank)
  | .file path => do
    let (after, names, contents) ← openFile files a path
    return (after, initial a (some names) contents)

end Connection

end SwiftForms
