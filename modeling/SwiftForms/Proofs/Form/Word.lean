import SwiftForms.Form.Reader
import SwiftForms.Proofs.Form.Numeral

/-!
# Words

The words of source texts by their grammar: what a string literal is, and which words outside strings
are numbers, names or neither. Main statements: a string is closed exactly where its grammar ends it,
and the kind of a word is the one that its grammar gives.
-/

namespace SwiftForms

namespace Glyph

/-- A space is a glyph whose part is to divide words. -/
theorem isSpace_iff {g : Glyph} : g.isSpace = true ↔ g.role = .space := by
  rw [isSpace, decide_eq_true_eq]

/-- Whether a glyph belongs to a word. -/
def isPlain (g : Glyph) : Bool :=
  g.role = .plain

/-- A glyph that is neither a space nor a delimiter belongs to a word. -/
theorem isPlain_iff {g : Glyph} : g.isPlain = true ↔ g.isSpace = false ∧ g.isDelimiter = false := by
  rw [isPlain, isSpace, isDelimiter]
  cases g.role <;> simp

/-- A glyph that belongs to a word is no space. -/
theorem isSpace_of_isPlain {g : Glyph} (h : g.isPlain = true) : g.isSpace = false :=
  (isPlain_iff.mp h).1

/-- The reader takes a character that is no space as it is. -/
theorem normal_of_char {c : Char} (h : (char c).isSpace = false) : (char c).normal = char c := by
  rw [normal, h]
  rfl

/-- The reader takes every glyph with the part that it plays. -/
theorem role_normal (g : Glyph) : g.normal.role = g.role := by
  cases hspace : g.isSpace with
  | true =>
    rw [normal, hspace, isSpace_iff.mp hspace]
    rfl
  | false =>
    cases g with
    | char c => rw [normal_of_char hspace]
    | stray byte => rfl

/-- The reader takes delimiters for delimiters. -/
theorem isDelimiter_normal (g : Glyph) : g.normal.isDelimiter = g.isDelimiter := by
  rw [isDelimiter, isDelimiter, role_normal]

end Glyph

namespace Reader

/-- What follows the opening quote of a string, through its closing quote. A backslash takes the next
glyph with it, and no other quote stands before the last one. -/
inductive Quoted : Text → Prop
  /-- The closing quote. -/
  | close : Quoted [.char '"']
  /-- A backslash and the glyph that it takes with it. -/
  | escape (g : Glyph) {rest : Text} (h : Quoted rest) : Quoted (.char '\\' :: g :: rest)
  /-- Any other glyph. -/
  | glyph {g : Glyph} {rest : Text} (noQuote : g ≠ .char '"') (noEscape : g ≠ .char '\\')
    (h : Quoted rest) : Quoted (g :: rest)

/-- A string closes where its grammar ends it, whatever follows. -/
theorem closeString_of_quoted {body : Text} (h : Quoted body) (rest : Text) :
    closeString (body ++ rest) = some (body, rest) := by
  induction h with
  | close => rfl
  | escape g h ih => rw [List.cons_append, List.cons_append, closeString, ih, Option.map_some]
  | @glyph g tail noQuote noEscape h ih =>
    rw [List.cons_append, closeString, ih, Option.map_some]
    · exact noQuote
    · intro _ _ hg _
      exact noEscape hg

/-- A string that closes follows its grammar. -/
theorem quoted_of_closeString {t body rest : Text} (h : closeString t = some (body, rest)) :
    Quoted body := by
  fun_induction closeString t generalizing body rest with
  | case1 => cases h
  | case2 tail =>
    cases h
    exact .close
  | case3 g tail ih =>
    obtain ⟨⟨inner, after⟩, hinner, hpair⟩ := Option.map_eq_some_iff.mp h
    cases hpair
    exact .escape g (ih hinner)
  | case4 g tail hquote hescape ih =>
    obtain ⟨⟨inner, after⟩, hinner, hpair⟩ := Option.map_eq_some_iff.mp h
    cases hpair
    have hne : g ≠ .char '\\' := by
      intro hg
      cases tail with
      | nil => cases hinner
      | cons next others => exact hescape next others hg rfl
    exact .glyph hquote hne (ih hinner)

/-- Closing a string is splitting a text after a string. -/
theorem closeString_eq_some_iff {t body rest : Text} :
    closeString t = some (body, rest) ↔ Quoted body ∧ t = body ++ rest := by
  constructor
  · intro h
    exact ⟨quoted_of_closeString h, append_of_closeString h⟩
  · rintro ⟨hbody, rfl⟩
    exact closeString_of_quoted hbody rest

/-- The kind of a word outside strings: a number, if it is a numeral that is no integer beyond 64 bits;
none, if it starts like a number otherwise; and a name in all other cases. -/
def wordKind (word : Text) : Option Leaf :=
  if word ∈ Numeral.pattern.matches' ∧ (Numeral.HasMark word ∨ Numeral.InRange (Numeral.value word)) then
    some .number
  else if Numeral.StartsLikeNumber word then none
  else some .atom

/-- A word has the kind that its grammar gives, if no delimiter stands in it, and none otherwise. -/
theorem classify_eq_ok_iff {word : Text} {kind : Leaf} :
    classify word = .ok kind ↔ (∀ g ∈ word, g.isDelimiter = false) ∧ wordKind word = some kind := by
  have hdelimiter : word.any Glyph.isDelimiter = false ↔ ∀ g ∈ word, g.isDelimiter = false := by
    simp
  have hnumber : (Numeral.isFractional word || Numeral.fits (Numeral.integer word)) = true ↔
      Numeral.HasMark word ∨ Numeral.InRange (Numeral.value word) := by
    rw [Bool.or_eq_true, Numeral.isFractional_iff, Numeral.fits_iff, Numeral.integer_eq_value]
  rw [← hdelimiter]
  unfold classify wordKind
  cases hany : word.any Glyph.isDelimiter with
  | true => simp
  | false =>
    by_cases hpattern : word ∈ Numeral.pattern.matches'
    · have hstarts := Numeral.startsLikeNumber_of_mem_pattern hpattern
      by_cases hvalue : Numeral.HasMark word ∨ Numeral.InRange (Numeral.value word)
      · simp [Numeral.isNumeral_iff.mpr hpattern, hnumber.mpr hvalue, hpattern, hvalue]
      · simp [Numeral.isNumeral_iff, hpattern, hvalue, hnumber, hstarts]
    · by_cases hstarts : Numeral.StartsLikeNumber word
      · simp [Numeral.isNumeral_iff, Numeral.looksNumeric_iff, hpattern, hstarts]
      · simp [Numeral.isNumeral_iff, Numeral.looksNumeric_iff, hpattern, hstarts]

end Reader

end SwiftForms
