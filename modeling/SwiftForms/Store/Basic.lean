import SwiftForms.Store.Database
import SwiftForms.Store.Memory

/-!
# Stores

A store is kept in memory or in a database. A closed database answers nothing until it is opened
again; a store in memory works on after it has been closed.
-/

namespace SwiftForms

/-- A store of compilations. -/
inductive Store where
  /-- A store in memory. -/
  | memory (contents : Memory)
  /-- A database that is open. -/
  | database (contents : Database)
  /-- A database that has been closed. -/
  | closed (contents : Database)
  deriving Repr

namespace Store

/-- The tables of an open database. -/
def tables? : Store → Option Database
  | .database db => some db
  | _ => none

/-- The compilation with a key. -/
def get (s : Store) (key : Text) : Except StoreError (Option Entry) :=
  match s with
  | .memory m => .ok (m.get? key)
  | .database db => .ok (db.get? key)
  | .closed _ => .error .closed

/-- The store with a compilation. -/
def put (s : Store) (e : Entry) : Except StoreError Store :=
  match s with
  | .memory m => .ok (.memory (m.put e))
  | .database db => .ok (.database (db.put e))
  | .closed _ => .error .closed

/-- The store without the compilation with a key. -/
def delete (s : Store) (key : Text) : Except StoreError Store :=
  match s with
  | .memory m => .ok (.memory (m.delete key))
  | .database db => .ok (.database (db.delete key))
  | .closed _ => .error .closed

/-- The store without compilations. -/
def purge (s : Store) : Except StoreError Store :=
  match s with
  | .memory m => .ok (.memory m.purge)
  | .database db => .ok (.database db.purge)
  | .closed _ => .error .closed

/-- The number of compilations. -/
def size (s : Store) : Except StoreError Nat :=
  match s with
  | .memory m => .ok m.size
  | .database db => .ok db.size
  | .closed _ => .error .closed

/-- The metadata at a key, empty if there are none. -/
def metadataAt (s : Store) (key : Text) : Except StoreError Text :=
  match s with
  | .memory m => .ok (m.metadataAt key)
  | .database db => .ok (db.metadataAt key)
  | .closed _ => .error .closed

/-- The store with metadata at a key. -/
def setMetadata (s : Store) (key value : Text) : Except StoreError Store :=
  match s with
  | .memory m => .ok (.memory (m.setMetadata key value))
  | .database db => .ok (.database (db.setMetadata key value))
  | .closed _ => .error .closed

/-- The store after it has been closed. -/
def close : Store → Store
  | .memory m => .memory m
  | .database db => .closed db
  | .closed db => .closed db

/-- The store opened anew: an empty one in memory, or the same database. -/
def reopen : Store → Except StoreError Store
  | .memory _ => .ok (.memory .empty)
  | .database db => (db.opened).map .database
  | .closed db => (db.opened).map .database

end Store

end SwiftForms
