import SwiftForms.Store.Basic

/-!
# Calls of a store

The calls that a store answers, as data, so that sequences of them can be run and compared.
-/

namespace SwiftForms

/-- A call of a store. -/
inductive StoreCall where
  /-- The compilation with a key. -/
  | get (key : Text)
  /-- Keep a compilation. -/
  | put (entry : Entry)
  /-- Forget the compilation with a key. -/
  | delete (key : Text)
  /-- Forget all compilations. -/
  | purge
  /-- The number of compilations. -/
  | size
  /-- The metadata at a key. -/
  | getMetadata (key : Text)
  /-- Keep metadata at a key. -/
  | setMetadata (key value : Text)
  deriving DecidableEq, Repr

/-- The answer to a call. -/
inductive StoreAnswer where
  /-- The compilation that was looked for, if there is one. -/
  | entry (found : Option Entry)
  /-- The store has been changed. -/
  | done
  /-- The number of compilations. -/
  | size (n : Nat)
  /-- Metadata. -/
  | metadata (value : Text)
  deriving DecidableEq, Repr

namespace Store

/-- The answer of a store to a call, and the store after it. -/
def call (s : Store) : StoreCall → Except StoreError (StoreAnswer × Store)
  | .get key => (s.get key).map fun found => (.entry found, s)
  | .put e => (s.put e).map fun next => (.done, next)
  | .delete key => (s.delete key).map fun next => (.done, next)
  | .purge => (s.purge).map fun next => (.done, next)
  | .size => (s.size).map fun n => (.size n, s)
  | .getMetadata key => (s.metadataAt key).map fun value => (.metadata value, s)
  | .setMetadata key value => (s.setMetadata key value).map fun next => (.done, next)

/-- The answer of a store that is opened for one call and closed again, and the store after it. -/
def callOnce (s : Store) (c : StoreCall) : Except StoreError (StoreAnswer × Store) :=
  match s with
  | .memory m => (Store.memory m).call c
  | .database db | .closed db =>
    match db.opened with
    | .error e => .error e
    | .ok ready => (Store.database ready).call c

end Store

end SwiftForms
