import SwiftForms.Proofs.Fallible
import SwiftForms.Store.Cache

/-!
# What a store holds

The compilations and the metadata of a store, whether it is kept in memory or in a database and
whether or not it is open. Each service of a cache, if it answers at all, is described by what the
store holds before and after it.
-/

namespace SwiftForms

namespace Database

/-- After a row has been written, its key finds it and other keys find what they found before. -/
theorem find?_upsert {α : Type} (key : α → Text) (row : α) (rows : List α) (k : Text) :
    (upsert key row rows).find? (fun r => key r = k) =
      if k = key row then some row else rows.find? fun r => key r = k := by
  induction rows with
  | nil =>
    by_cases h : key row = k
    · simp [upsert, h]
    · simp [upsert, h, Ne.symm h]
  | cons first rest ih =>
    rw [upsert]
    by_cases hfirst : key first = key row
    · rw [if_pos hfirst]
      by_cases h : key row = k
      · simp [h]
      · simp [h, Ne.symm h, hfirst]
    · rw [if_neg hfirst]
      by_cases h : key first = k
      · have hne : k ≠ key row := fun heq => hfirst (h.trans heq)
        simp [h, hne]
      · simp only [List.find?_cons, h, decide_false]
        exact ih

/-- Opening a database changes nothing but the version of its layout. -/
theorem held_of_opened {db db' : Database} (h : db.opened = .ok db') :
    (∀ key, db'.get? key = db.get? key) ∧
      ∀ key, key ≠ versionKey → db'.metadataAt key = db.metadataAt key := by
  unfold opened at h
  split at h
  · cases h
    refine ⟨fun _ => rfl, fun key hkey => ?_⟩
    have hrow := find?_upsert MetadataRow.key ⟨versionKey, schemaVersion⟩ db.metadata key
    simp only [metadataAt, setMetadata, hrow, if_neg hkey]
  · split at h
    · cases h
      exact ⟨fun _ => rfl, fun _ _ => rfl⟩
    · cases h

end Database

namespace Store

/-- The compilation that a store holds at a key. -/
def held (s : Store) (key : Text) : Option Entry :=
  match s with
  | .memory m => m.get? key
  | .database db | .closed db => db.get? key

/-- The metadata that a store holds at a key, empty if there are none. -/
def noted (s : Store) (key : Text) : Text :=
  match s with
  | .memory m => m.metadataAt key
  | .database db | .closed db => db.metadataAt key

variable {s t : Store}

/-- What a store finds is what it holds. -/
theorem held_of_get {key : Text} {found : Option Entry} (h : s.get key = .ok found) :
    found = s.held key := by
  cases s <;> cases h <;> rfl

/-- The metadata that a store tells are those that it holds. -/
theorem noted_of_metadataAt {key value : Text} (h : s.metadataAt key = .ok value) :
    value = s.noted key := by
  cases s <;> cases h <;> rfl

/-- A kept compilation is held at its key, and nothing else changes. -/
theorem held_of_put {e : Entry} (h : s.put e = .ok t) :
    (∀ key, t.held key = if key = e.key then some e else s.held key) ∧
      ∀ key, t.noted key = s.noted key := by
  cases s with
  | memory m =>
    cases h
    exact ⟨fun key => Dict.find?_insert m.entries e.key key e, fun _ => rfl⟩
  | database db =>
    cases h
    exact ⟨Database.find?_upsert Entry.key e db.compilations, fun _ => rfl⟩
  | closed db => cases h

/-- A purged store holds no compilation, and its metadata stay. -/
theorem held_of_purge (h : s.purge = .ok t) :
    (∀ key, t.held key = none) ∧ ∀ key, t.noted key = s.noted key := by
  cases s <;> cases h <;> exact ⟨fun _ => rfl, fun _ => rfl⟩

/-- Kept metadata are held at their key, and nothing else changes. -/
theorem noted_of_setMetadata {key value : Text} (h : s.setMetadata key value = .ok t) :
    (∀ k, t.held k = s.held k) ∧
      ∀ k, t.noted k = if k = key then value else s.noted k := by
  cases s with
  | memory m =>
    cases h
    refine ⟨fun _ => rfl, fun k => ?_⟩
    simp only [noted, Memory.metadataAt, Memory.setMetadata, Dict.find?_insert]
    split <;> rfl
  | database db =>
    cases h
    refine ⟨fun _ => rfl, fun k => ?_⟩
    have hrow := Database.find?_upsert MetadataRow.key ⟨key, value⟩ db.metadata k
    simp only [noted, Database.metadataAt, Database.setMetadata, hrow]
    split <;> rfl
  | closed db => cases h

/-- A database that is opened anew holds the same compilations, and the same metadata except for the
version of its layout; a store in memory holds nothing any more. -/
theorem held_of_reopen (h : s.reopen = .ok t) :
    (∀ key, t.held key = none) ∨ (∀ key, t.held key = s.held key) ∧
      ∀ key, key ≠ Database.versionKey → t.noted key = s.noted key := by
  cases s with
  | memory m =>
    cases h
    exact .inl fun _ => rfl
  | database db =>
    obtain ⟨db', hopened, rfl⟩ := Fallible.map_eq_ok.mp h
    exact .inr (Database.held_of_opened hopened)
  | closed db =>
    obtain ⟨db', hopened, rfl⟩ := Fallible.map_eq_ok.mp h
    exact .inr (Database.held_of_opened hopened)

end Store

namespace Cache

variable {c d : Cache}

/-- A service that answers is in order. -/
theorem eq_ok_of_serve {α : Type} {service : Service} {answer : Except StoreError α} {a : α}
    (h : c.serve service answer = .ok a) : answer = .ok a := by
  unfold serve at h
  split at h
  · cases h
  · exact h

/-- A compilation that a cache finds is held by its store. -/
theorem held_of_get {key : Text} {found : Option Entry} (h : c.get key = .ok found) :
    found = c.store.held key :=
  Store.held_of_get (eq_ok_of_serve h)

/-- The metadata that a cache tells are held by its store. -/
theorem noted_of_metadataAt {key value : Text} (h : c.metadataAt key = .ok value) :
    value = c.store.noted key :=
  Store.noted_of_metadataAt (eq_ok_of_serve h)

/-- A cache that keeps a compilation keeps it in its store. -/
theorem store_of_put {e : Entry} (h : c.put e = .ok d) :
    c.store.put e = .ok d.store ∧ d.hasMetadata = c.hasMetadata := by
  have hput : (c.store.put e) >>= c.grown = .ok d := eq_ok_of_serve h
  obtain ⟨s, hs, hgrown⟩ := Fallible.bind_eq_ok.mp hput
  unfold grown at hgrown
  split at hgrown
  · cases hgrown
    exact ⟨hs, rfl⟩
  · cases hgrown

/-- A cache that purges purges its store. -/
theorem store_of_purge (h : c.purge = .ok d) :
    c.store.purge = .ok d.store ∧ d.hasMetadata = c.hasMetadata := by
  obtain ⟨s, hs, rfl⟩ := Fallible.map_eq_ok.mp (eq_ok_of_serve h)
  exact ⟨hs, rfl⟩

/-- A cache that keeps metadata keeps them in its store. -/
theorem store_of_setMetadata {key value : Text} (h : c.setMetadata key value = .ok d) :
    c.store.setMetadata key value = .ok d.store ∧ d.hasMetadata = c.hasMetadata := by
  obtain ⟨s, hs, rfl⟩ := Fallible.map_eq_ok.mp (eq_ok_of_serve h)
  exact ⟨hs, rfl⟩

end Cache

end SwiftForms
