import SwiftForms.Swift.Identifier

/-!
# Identifiers are words

Each glyph of a name is spelled by letters, decimal digits and underscores, and the first one by
something that is no digit. So the spelling of a name that is not empty is a word, and a word is its own
spelling. Main statement: the identifier of a name is a word outside the table of keywords, which is its
own identifier, or a keyword in backquotes.
-/

namespace SwiftForms

/-- The digits of a number are those of its base. -/
theorem Text.forall_mem_toDigits {base : Nat} (hbase : 1 < base) (n : Nat) :
    ∀ c ∈ Nat.toDigits base n, ∃ digit < base, c = Nat.digitChar digit := by
  induction n using Nat.strongRecOn with
  | ind n ih =>
    by_cases hlarge : base ≤ n
    · rw [Nat.toDigits_of_base_le hbase hlarge]
      refine List.forall_mem_append.mpr ⟨ih _ (Nat.div_lt_self (by omega) hbase), ?_⟩
      exact List.forall_mem_singleton.mpr ⟨_, Nat.mod_lt n (by omega), rfl⟩
    · have hlt : n < base := Nat.not_le.mp hlarge
      rw [Nat.toDigits_of_lt_base hlt]
      exact List.forall_mem_singleton.mpr ⟨n, hlt, rfl⟩

/-- A code point in some ranges lies between the ends of one of them. -/
theorem CodeRanges.exists_of_contains {ranges : CodeRanges} {n : Nat}
    (h : ranges.contains n = true) : ∃ range ∈ ranges, range.1 ≤ n ∧ n ≤ range.2 := by
  induction ranges with
  | nil => cases h
  | cons range rest ih =>
    obtain ⟨low, high⟩ := range
    rw [contains] at h
    split at h
    · cases h
    · split at h
      · exact ⟨(low, high), List.mem_cons_self, by omega, by omega⟩
      · obtain ⟨range, hmem, hbounds⟩ := ih h
        exact ⟨range, List.mem_cons_of_mem _ hmem, hbounds⟩

namespace Identifier

/-- The glyphs that words start with: the letters of all scripts and the underscore. -/
def leads (g : Glyph) : Bool :=
  g = .char '_' || g.isLetter

/-- The glyphs that words go on with: those they start with and the decimal digits of all scripts. -/
def follows (g : Glyph) : Bool :=
  leads g || g.isDecimalDigit

/-- Whether a text is a word. -/
def isWord : Text → Bool
  | [] => false
  | first :: rest => leads first && rest.all follows

/-- A keyword as it is written where an identifier stands. -/
def backquoted (keyword : Text) : Text :=
  .char '\x60' :: (keyword ++ [.char '\x60'])

/-- The ASCII characters that operators are made of. -/
def operatorGlyphs : Text :=
  "/=-+!*%<>&|^~?"

/-- The brackets, the quotes, the comma and what operators are made of. -/
def marks : Text :=
  "()[]\x7b\x7d\"'," ++ operatorGlyphs

/-- What starts a word may stand in it. -/
theorem follows_of_leads {g : Glyph} (h : leads g = true) : follows g = true := by
  rw [follows, h, Bool.true_or]

/-- A number in base sixteen may stand in a word. -/
theorem follows_of_mem_hexadecimal {width n : Nat} :
    ∀ g ∈ Text.hexadecimalUpper width n, follows g = true := by
  have hdigits : ∀ digit < 16, follows (.char (Nat.digitChar digit).toUpper) = true := by
    decide
  intro g hg
  obtain ⟨lower, hlower, rfl⟩ := List.mem_map.mp hg
  obtain ⟨c, hc, rfl⟩ := List.mem_map.mp hlower
  rcases List.mem_append.mp hc with hzero | hdigit
  · rw [List.eq_of_mem_replicate hzero]
    decide
  · obtain ⟨digit, hlt, rfl⟩ := Text.forall_mem_toDigits (by decide) _ c hdigit
    exact hdigits digit hlt

/-- A glyph of a name is spelled by glyphs that may stand in words. -/
theorem follows_of_mem_spellGlyph (first : Bool) (g : Glyph) :
    ∀ h ∈ spellGlyph first g, follows h = true := by
  unfold spellGlyph
  dsimp only
  split
  · rename_i hkept
    exact List.forall_mem_singleton.mpr (follows_of_leads hkept)
  · split
    · rename_i hdigit
      have hkept : follows (.char g.shown) = true := by
        rw [follows, hdigit, Bool.or_true]
      split
      · exact List.forall_mem_cons.mpr ⟨by decide, List.forall_mem_singleton.mpr hkept⟩
      · exact List.forall_mem_singleton.mpr hkept
    · split
      · decide
      · decide
      · decide
      · decide
      · exact List.forall_mem_append.mpr ⟨by decide, follows_of_mem_hexadecimal⟩

/-- The first glyph of a name is spelled by something that starts a word. -/
theorem leads_spellGlyph (g : Glyph) :
    ∃ first rest, spellGlyph true g = first :: rest ∧ leads first = true := by
  unfold spellGlyph
  dsimp only
  split
  · rename_i hkept
    exact ⟨_, _, rfl, hkept⟩
  · split
    · exact ⟨_, _, rfl, by decide⟩
    · split <;> exact ⟨_, _, rfl, by decide⟩

/-- The rest of a name is spelled by glyphs that may stand in words. -/
theorem follows_of_mem_spellRest (rest : Text) : ∀ g ∈ spellRest rest, follows g = true := by
  intro g hg
  obtain ⟨source, -, hsource⟩ := List.mem_flatMap.mp hg
  exact follows_of_mem_spellGlyph false source g hsource

/-- The spelling of a name that is not empty is a word. -/
theorem isWord_spell {name : Text} (h : name ≠ []) : isWord (spell name) = true := by
  cases name with
  | nil => exact absurd rfl h
  | cons g rest =>
    have hglyphs := follows_of_mem_spellGlyph true g
    obtain ⟨first, more, hspelled, hleads⟩ := leads_spellGlyph g
    rw [hspelled] at hglyphs
    rw [spell, hspelled, List.cons_append, isWord, hleads, Bool.true_and, List.all_eq_true]
    exact List.forall_mem_append.mpr
      ⟨(List.forall_mem_cons.mp hglyphs).2, follows_of_mem_spellRest rest⟩

/-- All glyphs of a word may stand in words. -/
theorem follows_of_mem_word {word : Text} (h : isWord word = true) :
    ∀ g ∈ word, follows g = true := by
  cases word with
  | nil => exact List.forall_mem_nil _
  | cons first rest =>
    rw [isWord, Bool.and_eq_true, List.all_eq_true] at h
    exact List.forall_mem_cons.mpr ⟨follows_of_leads h.1, h.2⟩

/-- What may stand in words is a character. -/
theorem eq_char_of_follows {g : Glyph} (h : follows g = true) : Glyph.char g.shown = g := by
  cases g with
  | char c => rfl
  | stray byte =>
    have hstray : follows (.stray byte) = follows (.stray 0) := rfl
    rw [hstray] at h
    exact absurd h (by decide +kernel)

/-- What starts a word is spelled as it is. -/
theorem spellGlyph_of_leads {g : Glyph} (first : Bool) (h : leads g = true) :
    spellGlyph first g = [g] := by
  have hchar := eq_char_of_follows (follows_of_leads h)
  unfold spellGlyph
  dsimp only
  rw [hchar]
  exact if_pos h

/-- What may stand in a word is spelled as it is after the first glyph of a name. -/
theorem spellGlyph_of_follows {g : Glyph} (h : follows g = true) : spellGlyph false g = [g] := by
  by_cases hleads : leads g = true
  · exact spellGlyph_of_leads false hleads
  · have hchar := eq_char_of_follows h
    have hdigit : g.isDecimalDigit = true := by
      rw [follows, Bool.or_eq_true] at h
      exact h.resolve_left hleads
    unfold spellGlyph
    dsimp only
    rw [hchar]
    exact (if_neg hleads).trans (if_pos hdigit)

/-- What may stand in words is spelled as it is in the rest of a name. -/
theorem spellRest_eq_self {rest : Text} (h : ∀ g ∈ rest, follows g = true) : spellRest rest = rest := by
  induction rest with
  | nil => rfl
  | cons g more ih =>
    obtain ⟨hg, hmore⟩ := List.forall_mem_cons.mp h
    have hlater : more.flatMap (spellGlyph false) = more := ih hmore
    rw [spellRest, List.flatMap_cons, spellGlyph_of_follows hg, hlater]
    rfl

/-- A word is its own spelling. -/
theorem spell_eq_self {word : Text} (h : isWord word = true) : spell word = word := by
  cases word with
  | nil => cases h
  | cons first rest =>
    rw [isWord, Bool.and_eq_true, List.all_eq_true] at h
    rw [spell, spellGlyph_of_leads true h.1, spellRest_eq_self h.2]
    rfl

/-- The identifier of a name is its spelling, or the backquoted spelling if that is a keyword. -/
theorem ofName_cases (name : Text) :
    (spell name ∈ keywords ∧ ofName name = backquoted (spell name)) ∨
      (spell name ∉ keywords ∧ ofName name = spell name) := by
  rw [ofName]
  split
  · rename_i hkeyword
    exact .inl ⟨List.contains_iff_mem.mp hkeyword, rfl⟩
  · rename_i hother
    exact .inr ⟨fun hmem => hother (List.contains_iff_mem.mpr hmem), rfl⟩

/-- A word that is no keyword is its own identifier. -/
theorem ofName_eq_self {word : Text} (hword : isWord word = true) (h : word ∉ keywords) :
    ofName word = word := by
  have hspell := spell_eq_self hword
  rcases ofName_cases word with ⟨hkeyword, -⟩ | ⟨-, hname⟩
  · rw [hspell] at hkeyword
    exact absurd hkeyword h
  · rw [hname, hspell]

/-- The identifier of a name that is not empty has backquotes besides what may stand in words. -/
theorem follows_of_mem_ofName {name : Text} (h : name ≠ []) :
    ∀ g ∈ ofName name, g = .char '\x60' ∨ follows g = true := by
  have hspell := follows_of_mem_word (isWord_spell h)
  intro g hg
  rcases ofName_cases name with ⟨-, hname⟩ | ⟨-, hname⟩
  · rw [hname, backquoted, List.mem_cons, List.mem_append, List.mem_singleton] at hg
    rcases hg with hquote | hmem | hquote
    · exact .inl hquote
    · exact .inr (hspell g hmem)
    · exact .inl hquote
  · rw [hname] at hg
    exact .inr (hspell g hg)

/-- No blank stands in words. -/
theorem not_follows_of_isBlank {g : Glyph} (h : g.isBlank = true) : follows g = false := by
  have hothers : ∀ range ∈ Glyph.blankRanges, ∀ k < range.2 + 1 - range.1,
      range.1 + k ≠ 0x5F ∧ Glyph.letterRanges.contains (range.1 + k) = false ∧
        Glyph.decimalDigitRanges.contains (range.1 + k) = false := by
    decide +kernel
  obtain ⟨range, hmem, hlow, hhigh⟩ := CodeRanges.exists_of_contains h
  obtain ⟨k, hk⟩ := Nat.exists_eq_add_of_le hlow
  obtain ⟨hunderscore, hletter, hdigit⟩ := hothers range hmem k (by omega)
  rw [← hk] at hunderscore hletter hdigit
  have hne : g ≠ .char '_' := by
    rintro rfl
    exact hunderscore rfl
  simp [follows, leads, Glyph.isLetter, Glyph.isDecimalDigit, hne, hletter, hdigit]

/-- Neither blanks nor marks stand in the identifier of a name that is not empty. -/
theorem unmarked_of_mem_ofName {name : Text} (h : name ≠ []) :
    ∀ g ∈ ofName name, g.isBlank = false ∧ g ∉ marks := by
  have hmarks : ∀ g ∈ marks, g ≠ .char '\x60' ∧ follows g = false := by
    decide
  intro g hg
  rcases follows_of_mem_ofName h g hg with rfl | hfollows
  · exact ⟨rfl, by decide⟩
  · constructor
    · cases hblank : g.isBlank with
      | false => rfl
      | true =>
        rw [not_follows_of_isBlank hblank] at hfollows
        cases hfollows
    · intro hmark
      rw [(hmarks g hmark).2] at hfollows
      cases hfollows

/-- The identifier of a name that is not empty is a keyword in backquotes or a word that is no keyword.
So there is no blank, no bracket, no quote, no comma and no part of an operator in it, it is no operator,
and unless it is backquoted it is its own identifier. -/
theorem ofName_usable {name : Text} (h : name ≠ []) :
    ((∃ keyword ∈ keywords, ofName name = backquoted keyword) ∨
      (isWord (ofName name) = true ∧ ofName name ∉ keywords)) ∧
    (∀ g ∈ ofName name, g.isBlank = false ∧ g ∉ marks) ∧
    (∀ target : Text, (∃ g ∈ target, g ∈ operatorGlyphs) → ofName name ≠ target) ∧
    ((∀ keyword ∈ keywords, ofName name ≠ backquoted keyword) → ofName (ofName name) = ofName name) := by
  have hspell := isWord_spell h
  have hunmarked := unmarked_of_mem_ofName h
  have hcases : (∃ keyword ∈ keywords, ofName name = backquoted keyword) ∨
      (isWord (ofName name) = true ∧ ofName name ∉ keywords) := by
    rcases ofName_cases name with ⟨hkeyword, hname⟩ | ⟨hother, hname⟩
    · exact .inl ⟨_, hkeyword, hname⟩
    · rw [hname]
      exact .inr ⟨hspell, hother⟩
  refine ⟨hcases, hunmarked, ?_, ?_⟩
  · rintro target ⟨g, hg, hoperator⟩ rfl
    exact (hunmarked g hg).2 (List.mem_append_right _ hoperator)
  · intro hbare
    rcases hcases with ⟨keyword, hkeyword, hname⟩ | ⟨hword, hother⟩
    · exact absurd hname (hbare keyword hkeyword)
    · exact ofName_eq_self hword hother

/-- A name that starts with a digit of another script, and in which a mark, a stray byte, a letter and
another mark follow. -/
def mixedName : Text :=
  [.char '٣', .char '-', .stray 0xFF, .char 'é', .char '?']

/-- The identifier of that name is a word and its own identifier, and that of a keyword is backquoted. -/
theorem usable_mixedName :
    ofName mixedName = "_٣__uFFFDé_p" ∧ isWord (ofName mixedName) = true ∧
      (∀ g ∈ ofName mixedName, g.isBlank = false ∧ g ∉ marks) ∧ ofName mixedName ≠ "<=" ∧
      ofName (ofName mixedName) = ofName mixedName ∧
      ∃ keyword ∈ keywords, ofName "in" = backquoted keyword := by
  have hname : ofName mixedName = "_٣__uFFFDé_p" := by
    decide +kernel
  have hbare : ∀ keyword ∈ keywords, ofName mixedName ≠ backquoted keyword := by
    decide +kernel
  have hin : ¬ isWord (ofName "in") = true := by
    decide +kernel
  obtain ⟨hcases, hunmarked, hoperator, hself⟩ := ofName_usable (by decide : mixedName ≠ [])
  refine ⟨hname, ?_, hunmarked, hoperator "<=" ⟨.char '<', by decide, by decide⟩, hself hbare, ?_⟩
  · rcases hcases with ⟨keyword, hkeyword, heq⟩ | ⟨hword, -⟩
    · exact absurd heq (hbare keyword hkeyword)
    · exact hword
  · rcases (ofName_usable (by decide : Text.ofString "in" ≠ [])).1 with hkeyword | ⟨hword, -⟩
    · exact hkeyword
    · exact absurd hword hin

end Identifier

end SwiftForms
