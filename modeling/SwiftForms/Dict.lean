import SwiftForms.Text.Basic

/-!
# Dictionaries

Finite maps from texts, kept as pairs. Setting a key removes the pair that held it before, so every
key stands once, and the pairs come in the reverse order of setting.
-/

namespace SwiftForms

/-- A finite map from texts. -/
structure Dict (α : Type) where
  /-- The keys with their values. -/
  pairs : List (Text × α)
  deriving Repr, Inhabited

namespace Dict

variable {α : Type}

/-- The map without keys. -/
def empty : Dict α :=
  ⟨[]⟩

/-- The value at a key. -/
def find? (d : Dict α) (key : Text) : Option α :=
  (d.pairs.find? fun pair => pair.1 = key).map Prod.snd

/-- The map without a key. -/
def erase (d : Dict α) (key : Text) : Dict α :=
  ⟨d.pairs.filter fun pair => pair.1 ≠ key⟩

/-- The map with a value at a key. -/
def insert (d : Dict α) (key : Text) (value : α) : Dict α :=
  ⟨(key, value) :: (d.erase key).pairs⟩

/-- The keys. -/
def keys (d : Dict α) : List Text :=
  d.pairs.map Prod.fst

/-- The values. -/
def values (d : Dict α) : List α :=
  d.pairs.map Prod.snd

/-- The number of keys. -/
def size (d : Dict α) : Nat :=
  d.pairs.length

/-- The empty map has no value anywhere. -/
@[simp] theorem find?_empty (key : Text) : (empty : Dict α).find? key = none :=
  rfl

/-- An erased key has no value, and the others keep theirs. -/
theorem find?_erase (d : Dict α) (key other : Text) :
    (d.erase key).find? other = if other = key then none else d.find? other := by
  obtain ⟨pairs⟩ := d
  induction pairs with
  | nil => simp [find?, erase]
  | cons pair rest ih =>
    obtain ⟨k, v⟩ := pair
    simp only [find?, erase] at ih ⊢
    by_cases hk : k = key
    · by_cases ho : k = other <;> grind
    · by_cases ho : k = other <;> grind

/-- A set key has its value, and the others keep theirs. -/
theorem find?_insert (d : Dict α) (key other : Text) (value : α) :
    (d.insert key value).find? other = if other = key then some value else d.find? other := by
  have herase := find?_erase d key other
  simp only [find?] at herase
  by_cases h : key = other
  · simp [insert, find?, h]
  · simp [insert, find?, h, herase, Ne.symm h]

end Dict

end SwiftForms
