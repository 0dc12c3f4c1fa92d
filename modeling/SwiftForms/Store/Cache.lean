import SwiftForms.Store.Basic

/-!
# Caches

A cache is a store as a compiler sees it. It may be without metadata, and any of its services may be
out of order for a time; a service that is out of order fails and changes nothing. The room for a store
may be limited; a compilation for which there is no room is not kept.
-/

namespace SwiftForms

/-- What a compiler asks of a store. -/
inductive Service where
  /-- Look up a compilation. -/
  | get
  /-- Keep a compilation. -/
  | put
  /-- Forget all compilations. -/
  | purge
  /-- Close the store. -/
  | close
  /-- Look up metadata. -/
  | getMetadata
  /-- Keep metadata. -/
  | setMetadata
  deriving DecidableEq, Repr

/-- A store as a compiler sees it. -/
structure Cache where
  /-- The store. -/
  store : Store
  /-- Whether metadata can be looked up and kept. -/
  hasMetadata : Bool
  /-- The services that are out of order, with the reason that each gives. -/
  outages : List (Service × Text)
  /-- Whether there is room for a state of the store. -/
  room : Store → Bool

namespace Cache

/-- The answer of a service, unless it is out of order. -/
def serve {α : Type} (c : Cache) (service : Service) (answer : Except StoreError α) :
    Except StoreError α :=
  match c.outages.lookup service with
  | some reason => .error (.outage reason)
  | none => answer

/-- The cache with another state of its store. -/
def withStore (c : Cache) (s : Store) : Cache :=
  { c with store := s }

/-- The compilation with a key. -/
def get (c : Cache) (key : Text) : Except StoreError (Option Entry) :=
  c.serve .get (c.store.get key)

/-- The cache with a state of its store for which there is room. -/
def grown (c : Cache) (s : Store) : Except StoreError Cache :=
  if c.room s then .ok (c.withStore s) else .error (.failed .full none)

/-- The cache with a compilation. -/
def put (c : Cache) (e : Entry) : Except StoreError Cache :=
  c.serve .put ((c.store.put e).bind c.grown)

/-- The cache without compilations. -/
def purge (c : Cache) : Except StoreError Cache :=
  c.serve .purge ((c.store.purge).map c.withStore)

/-- The metadata at a key. -/
def metadataAt (c : Cache) (key : Text) : Except StoreError Text :=
  c.serve .getMetadata (c.store.metadataAt key)

/-- The cache with metadata at a key. -/
def setMetadata (c : Cache) (key value : Text) : Except StoreError Cache :=
  c.serve .setMetadata ((c.store.setMetadata key value).map c.withStore)

/-- The cache after it has been closed. -/
def close (c : Cache) : Except StoreError Cache :=
  c.serve .close (.ok (c.withStore c.store.close))

/-- The cache with a service out of order from now on. -/
def fail (c : Cache) (service : Service) (reason : Text) : Cache :=
  { c with outages := (service, reason) :: c.outages.filter fun o => o.1 ≠ service }

/-- The cache with a service in order again. -/
def heal (c : Cache) (service : Service) : Cache :=
  { c with outages := c.outages.filter fun o => o.1 ≠ service }

end Cache

end SwiftForms
