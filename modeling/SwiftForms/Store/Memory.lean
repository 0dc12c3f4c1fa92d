import SwiftForms.Dict
import SwiftForms.Store.Database

/-!
# Stores in memory

A store in memory is a pair of finite maps, one for compilations and one for metadata. It forgets
everything when it is opened anew.
-/

namespace SwiftForms

/-- Compilations and metadata in memory. -/
structure Memory where
  /-- The compilations by key. -/
  entries : Dict Entry
  /-- The metadata. -/
  metadata : Dict Text
  deriving Repr, Inhabited

namespace Memory

/-- The empty store. -/
def empty : Memory :=
  ⟨.empty, .empty⟩

/-- The compilation with a key. -/
def get? (m : Memory) (key : Text) : Option Entry :=
  m.entries.find? key

/-- The store with a compilation, in place of any other with its key. -/
def put (m : Memory) (e : Entry) : Memory :=
  { m with entries := m.entries.insert e.key e }

/-- The store without the compilation with a key. -/
def delete (m : Memory) (key : Text) : Memory :=
  { m with entries := m.entries.erase key }

/-- The store without compilations. The metadata stay. -/
def purge (m : Memory) : Memory :=
  { m with entries := .empty }

/-- The number of compilations. -/
def size (m : Memory) : Nat :=
  m.entries.size

/-- The metadata at a key, empty if there are none. -/
def metadataAt (m : Memory) (key : Text) : Text :=
  (m.metadata.find? key).getD []

/-- The store with metadata at a key. -/
def setMetadata (m : Memory) (key value : Text) : Memory :=
  { m with metadata := m.metadata.insert key value }

end Memory

end SwiftForms
