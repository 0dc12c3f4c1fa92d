import Mathlib.Data.List.DropRight
import SwiftForms.Proofs.Text.Runs
import SwiftForms.Text.Classes

/-!
# Lines and the ends of texts

A text is its lines with newlines between them. Cutting the blanks off both ends of a text keeps its
first glyph that is not blank, and cuts all of it only if there is no such glyph.
-/

namespace SwiftForms.Text

/-- A separator stands between the first text and the others, if there are others. -/
theorem join_cons_of_ne_nil (separator t : Text) {rest : List Text} (h : rest ≠ []) :
    join separator (t :: rest) = t ++ separator ++ join separator rest := by
  cases rest with
  | nil => exact absurd rfl h
  | cons u others => exact join_cons_cons separator t u others

/-- Every glyph of joined texts is one of theirs or of the separator. -/
theorem mem_join {separator : Text} {parts : List Text} {g : Glyph} (h : g ∈ join separator parts) :
    g ∈ separator ∨ ∃ t ∈ parts, g ∈ t := by
  induction parts with
  | nil => cases h
  | cons t rest ih =>
    cases rest with
    | nil => exact .inr ⟨t, List.mem_cons_self, h⟩
    | cons u others =>
      rw [join_cons_cons, List.mem_append, List.mem_append] at h
      rcases h with (hfirst | hseparator) | hrest
      · exact .inr ⟨t, List.mem_cons_self, hfirst⟩
      · exact .inl hseparator
      · rcases ih hrest with hseparator | ⟨later, hlater, hg⟩
        · exact .inl hseparator
        · exact .inr ⟨later, List.mem_cons_of_mem t hlater, hg⟩

/-- A text, like a byte string, tells what stands in front of its first separator, and what follows
it. -/
theorem append_cons_inj {α : Type} {separator : α} {t u rest more : List α} (ht : separator ∉ t)
    (hu : separator ∉ u) (h : t ++ separator :: rest = u ++ separator :: more) :
    t = u ∧ rest = more := by
  rcases List.append_eq_append_iff.mp h with ⟨gap, hgap, htail⟩ | ⟨gap, hgap, htail⟩
  · cases gap with
    | nil => exact ⟨by rw [hgap, List.append_nil], (List.cons.inj htail).2⟩
    | cons g others =>
      obtain ⟨rfl, -⟩ := List.cons.inj htail
      exact absurd (hgap ▸ List.mem_append_right t List.mem_cons_self) hu
  · cases gap with
    | nil => exact ⟨by rw [hgap, List.append_nil], (List.cons.inj htail).2.symm⟩
    | cons g others =>
      obtain ⟨rfl, -⟩ := List.cons.inj htail
      exact absurd (hgap ▸ List.mem_append_right u List.mem_cons_self) ht

/-- Parts without the separator, each closed by it, can be told apart. -/
theorem closed_inj {α : Type} {separator : α} {parts others : List (List α)}
    (hparts : ∀ t ∈ parts, separator ∉ t) (hothers : ∀ t ∈ others, separator ∉ t)
    (h : parts.flatMap (· ++ [separator]) = others.flatMap (· ++ [separator])) : parts = others := by
  induction parts generalizing others with
  | nil =>
    cases others with
    | nil => rfl
    | cons u more => simp at h
  | cons t rest ih =>
    cases others with
    | nil => simp at h
    | cons u more =>
      obtain ⟨ht, hrest⟩ := List.forall_mem_cons.mp hparts
      obtain ⟨hu, hmore⟩ := List.forall_mem_cons.mp hothers
      have hwhole : t ++ separator :: rest.flatMap (· ++ [separator]) =
          u ++ separator :: more.flatMap (· ++ [separator]) := by
        simpa using h
      obtain ⟨hfirst, hlater⟩ := append_cons_inj ht hu hwhole
      rw [hfirst, ih hrest hmore hlater]

/-- A text without the separator is a single piece. -/
theorem splitOn_eq_singleton {separator : Glyph} {t : Text} (h : separator ∉ t) :
    t.splitOn separator = [t] := by
  induction t with
  | nil => rfl
  | cons g rest ih =>
    have hg : g ≠ separator := fun heq => h (heq ▸ List.mem_cons_self)
    have hrest : splitOn separator rest = [rest] := ih fun hmem => h (List.mem_cons_of_mem g hmem)
    simp only [splitOn, hrest, if_neg hg]

/-- What stands in front of a separator is the first piece, if no separator is in it. -/
theorem splitOn_append_cons {separator : Glyph} {t : Text} (h : separator ∉ t) (rest : Text) :
    (t ++ separator :: rest).splitOn separator = t :: rest.splitOn separator := by
  induction t with
  | nil =>
    rw [List.nil_append, splitOn]
    cases hpieces : splitOn separator rest with
    | nil => exact absurd hpieces (splitOn_ne_nil separator rest)
    | cons piece pieces => exact if_pos rfl
  | cons g others ih =>
    have hg : g ≠ separator := fun heq => h (heq ▸ List.mem_cons_self)
    have hothers := ih fun hmem => h (List.mem_cons_of_mem g hmem)
    simp only [List.cons_append, splitOn, hothers, if_neg hg]

/-- Parts that are closed by separators are the pieces in front of an empty one. -/
theorem splitOn_closed {separator : Glyph} {parts : List Text} (h : ∀ t ∈ parts, separator ∉ t) :
    splitOn separator (parts.flatMap (· ++ [separator])) = parts ++ [[]] := by
  induction parts with
  | nil => rfl
  | cons t rest ih =>
    obtain ⟨ht, hrest⟩ := List.forall_mem_cons.mp h
    rw [List.flatMap_cons, List.append_assoc, List.singleton_append, splitOn_append_cons ht, ih hrest]
    rfl

/-- The pieces of a text, with the separator between them, make up the text. -/
theorem join_splitOn (separator : Glyph) (t : Text) : join [separator] (t.splitOn separator) = t := by
  induction t with
  | nil => rfl
  | cons g rest ih =>
    cases hpieces : splitOn separator rest with
    | nil => exact absurd hpieces (splitOn_ne_nil separator rest)
    | cons piece pieces =>
      rw [hpieces] at ih
      simp only [splitOn, hpieces]
      split
      · next hg =>
        rw [join_cons_cons, ih, hg]
        rfl
      · cases pieces with
        | nil => exact congrArg (g :: ·) ih
        | cons next others => exact congrArg (g :: ·) ih

/-- The pieces of a text have no other glyphs than the text, and not the separator. -/
theorem mem_of_mem_splitOn {separator : Glyph} {t piece : Text} (h : piece ∈ t.splitOn separator) :
    ∀ g ∈ piece, g ∈ t ∧ g ≠ separator := by
  induction t generalizing piece with
  | nil =>
    rw [splitOn, List.mem_singleton] at h
    subst h
    exact List.forall_mem_nil _
  | cons g rest ih =>
    cases hpieces : splitOn separator rest with
    | nil => exact absurd hpieces (splitOn_ne_nil separator rest)
    | cons first pieces =>
      rw [hpieces] at ih
      have hlater : ∀ later ∈ first :: pieces, ∀ g' ∈ later, g' ∈ g :: rest ∧ g' ≠ separator := by
        intro later hmem g' hg'
        obtain ⟨hrest, hne⟩ := ih hmem g' hg'
        exact ⟨List.mem_cons_of_mem g hrest, hne⟩
      simp only [splitOn, hpieces] at h
      split at h
      · rcases List.mem_cons.mp h with rfl | hmem
        · exact List.forall_mem_nil _
        · exact hlater piece hmem
      · next hg =>
        rcases List.mem_cons.mp h with rfl | hmem
        · refine List.forall_mem_cons.mpr ⟨⟨List.mem_cons_self, hg⟩, ?_⟩
          exact hlater first List.mem_cons_self
        · exact hlater piece (List.mem_cons_of_mem first hmem)

/-- Nothing is cut off a text whose glyphs are all to be kept. -/
theorem dropEndWhile_eq_self {t : Text} {p : Glyph → Bool} (h : ∀ g ∈ t, p g = false) :
    t.dropEndWhile p = t := by
  have hkeep : t.reverse.dropWhile p = t.reverse := by
    refine List.dropWhile_eq_self_iff.mpr fun hlength => ?_
    have hmem := List.mem_reverse.mp (List.getElem_mem hlength)
    rw [h _ hmem]
    nofun
  rw [dropEndWhile, hkeep, List.reverse_reverse]

/-- Trimming keeps the first glyph that is not blank. -/
theorem head?_trim (t : Text) : t.trim.head? = (t.dropWhile Glyph.isBlank).head? := by
  have hstops := stops_dropWhile Glyph.isBlank t
  rw [trim]
  cases hrest : t.dropWhile Glyph.isBlank with
  | nil => rfl
  | cons g more =>
    rw [hrest] at hstops
    have hg : g.isBlank = false := hstops g rfl
    obtain ⟨cut, hcut⟩ := List.rdropWhile_prefix Glyph.isBlank (l := g :: more)
    have hne : (g :: more).rdropWhile Glyph.isBlank ≠ [] := by
      intro hnil
      have hall := List.rdropWhile_eq_nil_iff.mp hnil g List.mem_cons_self
      rw [hg] at hall
      cases hall
    change ((g :: more).rdropWhile Glyph.isBlank).head? = some g
    cases hkept : (g :: more).rdropWhile Glyph.isBlank with
    | nil => exact absurd hkept hne
    | cons first kept =>
      rw [hkept] at hcut
      cases hcut
      rfl

/-- A text starts with a glyph if the glyph is its first one. -/
theorem startsWith_singleton (t : Text) (g : Glyph) : t.startsWith [g] = true ↔ t.head? = some g := by
  cases t with
  | nil => simp [startsWith, dropStart?]
  | cons first rest =>
    by_cases hg : g = first
    · simp [startsWith, dropStart?, hg]
    · simp [startsWith, dropStart?, hg, Ne.symm hg]

end SwiftForms.Text
