import Mathlib.Data.List.TakeWhile
import SwiftForms.Text.Basic

/-!
# Runs of glyphs

A text is cut after the glyphs of a set at its start. The cut is where a glyph outside the set or the
end of the text comes first, and it is there whatever follows.
-/

namespace SwiftForms.Text

/-- A text that does not start with a glyph of a set. -/
def Stops (p : Glyph → Bool) (t : Text) : Prop :=
  ∀ g ∈ t.head?, p g = false

variable {p : Glyph → Bool} {run rest : Text}

/-- The empty text starts with no glyph. -/
theorem stops_nil (p : Glyph → Bool) : Stops p [] := by
  rintro _ ⟨⟩

/-- A text that starts with a glyph outside the set. -/
theorem stops_cons {g : Glyph} (h : p g = false) (rest : Text) : Stops p (g :: rest) := by
  rintro _ ⟨⟩
  exact h

/-- A run goes on as long as its glyphs are of the set and ends where the set is left. -/
theorem takeWhile_append_of_stops (hrun : ∀ g ∈ run, p g = true) (hrest : Stops p rest) :
    (run ++ rest).takeWhile p = run := by
  rw [List.takeWhile_append_of_pos hrun]
  cases rest with
  | nil => rw [List.takeWhile_nil, List.append_nil]
  | cons g more => rw [List.takeWhile_cons_of_neg (by simp [hrest g rfl]), List.append_nil]

/-- What stands after a run is found by leaving the run out. -/
theorem dropWhile_append_of_stops (hrun : ∀ g ∈ run, p g = true) (hrest : Stops p rest) :
    (run ++ rest).dropWhile p = rest := by
  rw [List.dropWhile_append_of_pos hrun]
  cases rest with
  | nil => rfl
  | cons g more => exact List.dropWhile_cons_of_neg (by simp [hrest g rfl])

/-- A run and what stands after it can be told apart. -/
theorem append_inj_of_stops {other more : Text} (hrun : ∀ g ∈ run, p g = true) (hrest : Stops p rest)
    (hother : ∀ g ∈ other, p g = true) (hmore : Stops p more) (h : run ++ rest = other ++ more) :
    run = other ∧ rest = more := by
  have htake := congrArg (List.takeWhile p) h
  have hdrop := congrArg (List.dropWhile p) h
  rw [takeWhile_append_of_stops hrun hrest, takeWhile_append_of_stops hother hmore] at htake
  rw [dropWhile_append_of_stops hrun hrest, dropWhile_append_of_stops hother hmore] at hdrop
  exact ⟨htake, hdrop⟩

/-- A run is left at a glyph outside the set. -/
theorem stops_dropWhile (p : Glyph → Bool) (t : Text) : Stops p (t.dropWhile p) := by
  intro g hg
  have hhead := List.head?_dropWhile_not p t
  rw [Option.mem_def.mp hg] at hhead
  simpa using hhead

/-- Leaving out the glyphs of a set or of a smaller one comes to the same if no glyph of the set is left
at the start. -/
theorem dropWhile_eq_of_stops {p q : Glyph → Bool} (hsub : ∀ g, q g = true → p g = true) {t : Text}
    (h : Stops p (t.dropWhile q)) : t.dropWhile p = t.dropWhile q := by
  have hrun : ∀ g ∈ t.takeWhile q, p g = true := fun g hg => hsub g (List.mem_takeWhile_imp hg)
  rw [← dropWhile_append_of_stops hrun h, List.takeWhile_append_dropWhile]

end SwiftForms.Text
