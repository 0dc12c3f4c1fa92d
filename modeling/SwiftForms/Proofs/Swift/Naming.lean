import SwiftForms.Proofs.Form.Numeral
import SwiftForms.Proofs.Swift.Regrouping
import SwiftForms.Proofs.Swift.Words

/-!
# Identifiers are names

The identifier of a name that is not empty is made of letters, digits, underscores and backquotes, and
it does not start with a digit. So it is one word, which Swift takes neither for a number nor for an
operator.
-/

namespace SwiftForms

open Swift

/-- The glyphs that identifiers may start with: those of words and backquotes. -/
def Identifier.starts (g : Glyph) : Bool :=
  g = .char '\x60' || leads g

/-- The glyphs that identifiers are made of: those of words and backquotes. -/
def Identifier.continues (g : Glyph) : Bool :=
  g = .char '\x60' || follows g

/-- A glyph that is no part of words is one of five. -/
theorem Swift.eq_of_not_isWordGlyph {g : Glyph} (h : isWordGlyph g = false) :
    g ∈ Text.ofString " (),\"" := by
  have hmark : mark g ≠ .word := of_decide_eq_false h
  unfold mark at hmark
  split at hmark
  · decide
  · decide
  · decide
  · decide
  · decide
  · exact absurd rfl hmark

/-- What identifiers are made of belongs to words. -/
theorem Swift.isWordGlyph_of_continues {g : Glyph} (h : Identifier.continues g = true) :
    isWordGlyph g = true := by
  have hothers : ∀ g ∈ Text.ofString " (),\"", Identifier.continues g = false := by
    decide
  by_contra hword
  rw [hothers g (eq_of_not_isWordGlyph (Bool.eq_false_iff.mpr hword))] at h
  cases h

namespace Identifier

/-- The identifier of a name is made of what identifiers are made of. -/
theorem continues_of_mem_ofName (name : Text) : ∀ g ∈ ofName name, continues g = true := by
  cases name with
  | nil => exact List.forall_mem_nil _
  | cons first rest =>
    intro g hg
    rw [continues, Bool.or_eq_true, decide_eq_true_eq]
    exact follows_of_mem_ofName (List.cons_ne_nil first rest) g hg

/-- The identifier of a name that is not empty starts like an identifier. -/
theorem starts_ofName {name : Text} (h : name ≠ []) :
    ∃ first rest, ofName name = first :: rest ∧ starts first = true := by
  rcases ofName_cases name with ⟨-, hname⟩ | ⟨-, hname⟩
  · exact ⟨_, _, hname, by decide⟩
  · have hword := isWord_spell h
    rw [hname]
    cases hspell : spell name with
    | nil =>
      rw [hspell] at hword
      cases hword
    | cons first rest =>
      rw [hspell, isWord, Bool.and_eq_true] at hword
      refine ⟨first, rest, rfl, ?_⟩
      rw [starts, hword.1, Bool.or_true]

/-- What starts an identifier starts neither a number nor an operator. -/
theorem isName_of_starts {first : Glyph} {rest : Text}
    (hword : ∀ g ∈ first :: rest, isWordGlyph g = true) (hstarts : starts first = true) :
    IsName (first :: rest) := by
  have hothers : ∀ g ∈ Text.ofString "0123456789-*/<>", starts g = false := by
    decide
  have hfirst : first ∉ Text.ofString "0123456789-*/<>" := by
    intro hmem
    rw [hothers first hmem] at hstarts
    cases hstarts
  refine ⟨List.cons_ne_nil _ _, hword, ?_, ?_⟩
  · by_contra hnumber
    have hdigit : first.isAsciiDigit = true ∨ first = .char '-' := by
      rw [Bool.not_eq_false, isNumber, List.head?_cons, Option.any_some, Bool.or_eq_true,
        decide_eq_true_eq] at hnumber
      exact hnumber
    rcases hdigit with hdigit | rfl
    · have hmem := (Numeral.isAsciiDigit_iff_mem first).mp hdigit
      exact hfirst (List.mem_append_left (Text.ofString "-*/<>") hmem)
    · exact hfirst (by decide)
  · cases hop : Operator.ofText? (first :: rest) with
    | none => rfl
    | some op =>
      have htext := Operator.text_of_ofText? hop
      cases op <;> cases htext <;> exact absurd (by decide) hfirst

/-- The identifier of a name that is not empty is a name. -/
theorem isName_ofName {name : Text} (h : name ≠ []) : IsName (ofName name) := by
  have hword : ∀ g ∈ ofName name, isWordGlyph g = true :=
    fun g hg => isWordGlyph_of_continues (continues_of_mem_ofName name g hg)
  obtain ⟨first, rest, hname, hstarts⟩ := starts_ofName h
  rw [hname] at hword ⊢
  exact isName_of_starts hword hstarts

end Identifier

end SwiftForms
