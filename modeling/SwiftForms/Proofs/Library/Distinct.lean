import Mathlib.Data.List.Nodup
import SwiftForms.Library.Basic

/-!
# The builtins of a library

While builtins are taken in, their places are kept by name and by target. Adding a builtin without a fault
keeps both indexes inverse to the list of builtins, so this holds of every library. It follows that names
differ, that targets differ, and that a look-up finds exactly the builtin that it is made for.
-/

namespace SwiftForms

/-- A builtin that no library takes after those of `earlier`: it has no name or no target, or it repeats
a name or a target, or its style needs two parameters and it has not two. -/
def Builtin.Faulty (earlier : List Builtin) (b : Builtin) : Prop :=
  (b.name = [] ∨ b.target = []) ∨ (∃ e ∈ earlier, e.name = b.name) ∨
    (∃ e ∈ earlier, e.target = b.target) ∨ (b.style ≠ .call ∧ b.params.length ≠ 2)

/-- An index of builtins by a text of theirs: it gives a place for a text exactly if the builtin at that
place has the text. -/
def Builtin.Indexed (key : Builtin → Text) (builtins : List Builtin) (index : Dict Nat) : Prop :=
  ∀ text place, index.find? text = some place ↔ ∃ b, builtins[place]? = some b ∧ key b = text

namespace Builtin.Indexed

variable {key : Builtin → Text} {builtins : List Builtin} {index : Dict Nat} {text : Text} {b : Builtin}

/-- The index of no builtins is empty. -/
theorem nil (key : Builtin → Text) : Indexed key [] .empty := by
  intro text place
  simp

/-- A builtin with a new text is added at the end. -/
theorem add (h : Indexed key builtins index) (hnew : index.find? (key b) = none) :
    Indexed key (builtins ++ [b]) (index.insert (key b) builtins.length) := by
  intro text place
  rw [Dict.find?_insert]
  have hplaces : (∃ c, (builtins ++ [b])[place]? = some c ∧ key c = text) ↔
      index.find? text = some place ∨ (place = builtins.length ∧ key b = text) := by
    rw [h text place]
    rcases Nat.lt_trichotomy place builtins.length with hlt | heq | hgt
    · rw [List.getElem?_append_left hlt]
      simp [Nat.ne_of_lt hlt]
    · subst heq
      simp
    · have hnone : (builtins ++ [b])[place]? = none := List.getElem?_eq_none (by simp; omega)
      simp [hnone, List.getElem?_eq_none (Nat.le_of_lt hgt), Nat.ne_of_gt hgt]
  rw [hplaces]
  split
  · rename_i hkey
    subst hkey
    simp [hnew, eq_comm]
  · rename_i hkey
    simp [Ne.symm hkey]

/-- Something is found for a text exactly if a builtin has it. -/
theorem isSome_iff (h : Indexed key builtins index) :
    (index.find? text).isSome = true ↔ ∃ b ∈ builtins, key b = text := by
  constructor
  · intro hsome
    obtain ⟨place, hplace⟩ := Option.isSome_iff_exists.mp hsome
    obtain ⟨b, hb, hkey⟩ := (h text place).mp hplace
    exact ⟨b, List.mem_of_getElem? hb, hkey⟩
  · rintro ⟨b, hb, hkey⟩
    obtain ⟨place, hplace⟩ := List.mem_iff_getElem?.mp hb
    rw [(h text place).mpr ⟨b, hplace, hkey⟩]
    rfl

/-- No two builtins have the same text. -/
theorem nodup (h : Indexed key builtins index) : (builtins.map key).Nodup := by
  rw [List.nodup_iff_getElem?_ne_getElem?]
  intro i j hij hj heq
  rw [List.length_map] at hj
  have hi : i < builtins.length := Nat.lt_trans hij hj
  rw [List.getElem?_map, List.getElem?_map, List.getElem?_eq_getElem hi, List.getElem?_eq_getElem hj,
    Option.map_some, Option.map_some, Option.some.injEq] at heq
  -- Both places would be found for the one text.
  have hfirst := (h (key builtins[i]) i).mpr ⟨_, List.getElem?_eq_getElem hi, rfl⟩
  have hsecond := (h (key builtins[i]) j).mpr ⟨_, List.getElem?_eq_getElem hj, heq.symm⟩
  rw [hfirst, Option.some.injEq] at hsecond
  omega

/-- Looking a text up finds exactly the builtin that has it. -/
theorem lookup_eq_some_iff (h : Indexed key builtins index) :
    ((index.find? text).bind fun place => builtins[place]?) = some b ↔ b ∈ builtins ∧ key b = text := by
  rw [Option.bind_eq_some_iff]
  constructor
  · rintro ⟨place, hplace, hb⟩
    obtain ⟨c, hc, hkey⟩ := (h text place).mp hplace
    rw [hb, Option.some.injEq] at hc
    exact ⟨List.mem_of_getElem? hb, hc ▸ hkey⟩
  · rintro ⟨hmem, hkey⟩
    obtain ⟨place, hplace⟩ := List.mem_iff_getElem?.mp hmem
    exact ⟨place, (h text place).mpr ⟨b, hplace, hkey⟩, hplace⟩

/-- Looking a text up finds nothing exactly if no builtin has it. -/
theorem lookup_eq_none_iff (h : Indexed key builtins index) :
    ((index.find? text).bind fun place => builtins[place]?) = none ↔ text ∉ builtins.map key := by
  rw [Option.eq_none_iff_forall_ne_some, List.mem_map, not_exists]
  exact forall_congr' fun b => not_congr h.lookup_eq_some_iff

end Builtin.Indexed

namespace Catalog

/-- A catalog in which the indexes are inverse to the list and every style has the parameters it needs. -/
structure Sound (c : Catalog) : Prop where
  /-- Places are found by name. -/
  names : Builtin.Indexed Builtin.name c.builtins c.byName
  /-- Places are found by target. -/
  targets : Builtin.Indexed Builtin.target c.builtins c.byTarget
  /-- A builtin whose calls are not written with round brackets has two parameters. -/
  params : ∀ b ∈ c.builtins, b.style ≠ .call → b.params.length = 2

/-- The catalog without builtins. -/
theorem sound_empty : empty.Sound :=
  ⟨.nil _, .nil _, List.forall_mem_nil _⟩

variable {c d : Catalog} {b : Builtin}

/-- The checks find nothing exactly if there is nothing to find. -/
theorem Sound.fault?_eq_none_iff (h : c.Sound) : c.fault? b = none ↔ ¬ b.Faulty c.builtins := by
  rw [fault?, Builtin.Faulty, ← h.names.isSome_iff, ← h.targets.isSome_iff]
  grind

/-- Adding a builtin without a fault keeps a catalog sound. -/
theorem Sound.add (h : c.Sound) (hfault : c.fault? b = none) : (c.add b).Sound := by
  have hfaulty := h.fault?_eq_none_iff.mp hfault
  rw [Builtin.Faulty, ← h.names.isSome_iff, ← h.targets.isSome_iff] at hfaulty
  simp only [not_or, Option.not_isSome_iff_eq_none, not_and, Decidable.not_not] at hfaulty
  obtain ⟨-, hname, htarget, hstyle⟩ := hfaulty
  refine ⟨h.names.add hname, h.targets.add htarget, ?_⟩
  exact List.forall_mem_append.mpr ⟨h.params, List.forall_mem_singleton.mpr hstyle⟩

/-- Adding any number of builtins without a fault keeps a catalog sound. -/
theorem Sound.extend {builtins : List Builtin} (h : c.Sound) (hextend : c.extend builtins = .ok d) :
    d.Sound := by
  induction builtins generalizing c with
  | nil =>
    cases hextend
    exact h
  | cons b rest ih =>
    rw [Catalog.extend] at hextend
    cases hfault : c.fault? b with
    | some fault => simp [hfault] at hextend
    | none =>
      rw [hfault] at hextend
      exact ih (h.add hfault) hextend

end Catalog

namespace Library

variable {lib : Library} {text : Text} {b : Builtin}

/-- The catalog of a library is sound. -/
theorem sound (lib : Library) : lib.toCatalog.Sound :=
  Catalog.sound_empty.extend lib.built

/-- No two builtins of a library have the same name. -/
theorem names_nodup (lib : Library) : (lib.builtins.map Builtin.name).Nodup :=
  lib.sound.names.nodup

/-- No two builtins of a library have the same target. -/
theorem targets_nodup (lib : Library) : (lib.builtins.map Builtin.target).Nodup :=
  lib.sound.targets.nodup

/-- A builtin whose calls are not written with round brackets has two parameters. -/
theorem params_of_style (hb : b ∈ lib.builtins) (hstyle : b.style ≠ .call) : b.params.length = 2 :=
  lib.sound.params b hb hstyle

/-- A name leads to the builtin that has it. -/
theorem named?_eq_some_iff : lib.named? text = some b ↔ b ∈ lib.builtins ∧ b.name = text :=
  lib.sound.names.lookup_eq_some_iff

/-- A name leads to nothing if no builtin has it. -/
theorem named?_eq_none_iff : lib.named? text = none ↔ text ∉ lib.builtins.map Builtin.name :=
  lib.sound.names.lookup_eq_none_iff

/-- A target leads to the builtin that has it. -/
theorem targeted?_eq_some_iff : lib.targeted? text = some b ↔ b ∈ lib.builtins ∧ b.target = text :=
  lib.sound.targets.lookup_eq_some_iff

/-- Libraries with the same runtime and the same builtins are the same. -/
theorem eq_of_builtins {other : Library} (hruntime : lib.runtime = other.runtime)
    (hbuiltins : lib.builtins = other.builtins) : lib = other := by
  have hcatalog : lib.toCatalog = other.toCatalog := by
    have hbuilt := lib.built
    rw [hbuiltins, other.built, Except.ok.injEq] at hbuilt
    exact hbuilt.symm
  cases lib
  cases other
  cases hcatalog
  cases hruntime
  rfl

end Library

end SwiftForms
