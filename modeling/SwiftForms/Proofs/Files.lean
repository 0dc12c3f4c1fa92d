import SwiftForms.Files
import SwiftForms.Proofs.Fallible

/-!
# Files that stay as they are

Files differ only at some places if they have the same directories, and the same nodes everywhere
else. A path is followed through directories alone, so in both it leads to the same names, and unless
these are among the places it finds the same there. Writing a file at a path is such a difference, at
the one place where the path leads, and the path then finds what was written. Removing a file is one too.
-/

namespace SwiftForms.Files

open Fallible

variable {files before middle after : Files} {places : List (List Text)} {names other : List Text}
  {path contents : Text}

/-- Leaving out the entries of some names does not change what is looked up for others. -/
theorem lookup_filter_of_ne (nodes : List (List Text × Node)) (h : other ≠ names) :
    (nodes.filter fun entry => entry.1 ≠ names).lookup other = nodes.lookup other := by
  induction nodes with
  | nil => rfl
  | cons entry rest ih =>
    by_cases hentry : entry.1 = names
    · have hother : (other == entry.1) = false := by rw [hentry, beq_eq_false_iff_ne]; exact h
      rw [List.filter_cons_of_neg (by simpa using hentry), ih, List.lookup_cons, hother]
    · rw [List.filter_cons_of_pos (by simpa using hentry), List.lookup_cons, List.lookup_cons, ih]

/-- A file that has been removed is not seen under other names. -/
theorem node?_removeFile_of_ne (files : Files) (h : other ≠ names) :
    (files.removeFile names).node? other = files.node? other := by
  unfold removeFile
  split
  · rfl
  · rw [node?, node?, lookup_filter_of_ne files.nodes h]

/-- Where a file has been removed, there is a directory if there was one. -/
theorem node?_removeFile_self (files : Files) (names : List Text) :
    (files.removeFile names).node? names = some .directory ↔
      files.node? names = some .directory := by
  unfold removeFile
  split
  · rfl
  · rename_i hplain
    have hfixed : ¬(names = root || isUpward names) = true := fun hfixed => hplain (if_pos hfixed)
    have hgone : (files.nodes.filter fun entry => entry.1 ≠ names).lookup names = none := by
      rw [List.lookup_eq_none_iff]
      intro entry hentry
      have hne := (List.mem_filter.mp hentry).2
      exact bne_iff_ne.mpr fun heq => of_decide_eq_true hne heq.symm
    rw [node?, if_neg hfixed, hgone]
    exact iff_of_false (fun h => by cases h) hplain

/-- Files before and after changes to nothing but the files at some places. -/
structure SameOutside (places : List (List Text)) (before after : Files) : Prop where
  /-- The directories are the same. -/
  directory : ∀ names, after.node? names = some .directory ↔ before.node? names = some .directory
  /-- Everything is the same at all other places. -/
  elsewhere : ∀ names, names ∉ places → after.node? names = before.node? names

namespace SameOutside

/-- Nothing is changed. -/
theorem refl (places : List (List Text)) (files : Files) : SameOutside places files files where
  directory := fun _ => Iff.rfl
  elsewhere := fun _ _ => rfl

/-- One change comes after another. -/
theorem trans (hfirst : SameOutside places before middle)
    (hsecond : SameOutside places middle after) : SameOutside places before after where
  directory := fun names => (hsecond.directory names).trans (hfirst.directory names)
  elsewhere := by
    intro names hnames
    rw [hsecond.elsewhere names hnames, hfirst.elsewhere names hnames]

/-- More places may be changed. -/
theorem mono {more : List (List Text)} (h : SameOutside places before after)
    (hmore : places ⊆ more) : SameOutside more before after where
  directory := h.directory
  elsewhere := fun names hnames => h.elsewhere names fun hmem => hnames (hmore hmem)

/-- A file is removed from one of the places. -/
theorem removeFile (files : Files) (hplace : names ∈ places) :
    SameOutside places files (files.removeFile names) where
  directory := by
    intro other
    by_cases hother : other = names
    · subst hother
      exact node?_removeFile_self files other
    · rw [node?_removeFile_of_ne files hother]
  elsewhere := by
    intro other hmem
    exact node?_removeFile_of_ne files fun heq => hmem (heq ▸ hplace)

end SameOutside

end SwiftForms.Files
