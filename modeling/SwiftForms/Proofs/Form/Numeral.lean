import Mathlib.Computability.RegularExpressions
import Mathlib.Data.List.Infix
import Mathlib.Data.Nat.Digits.Defs
import Mathlib.Tactic.IntervalCases
import SwiftForms.Form.Numeral
import SwiftForms.Proofs.Text.Runs

/-!
# The patterns of numerals

Numerals, and the starts of words that look like numbers, as regular expressions over glyphs. Main
statements: the test for numerals accepts exactly the texts of its pattern, the test for words that
look like numbers accepts exactly those that start with a text of theirs, and the integer that is
computed from a numeral is its value in decimal digits.
-/

namespace SwiftForms

namespace Pattern

/-- One of several glyphs. -/
def oneOf (glyphs : Text) : RegularExpression Glyph :=
  (glyphs.map RegularExpression.char).sum

/-- A pattern, or nothing. -/
def optional (p : RegularExpression Glyph) : RegularExpression Glyph :=
  1 + p

/-- A pattern at least once. -/
def repeated (p : RegularExpression Glyph) : RegularExpression Glyph :=
  p * p.star

variable {p q : RegularExpression Glyph} {glyphs t : Text}

/-- A choice of glyphs matches each of them. -/
theorem mem_oneOf : t ∈ (oneOf glyphs).matches' ↔ ∃ g ∈ glyphs, t = [g] := by
  induction glyphs with
  | nil => simp [oneOf]
  | cons g rest ih =>
    rw [oneOf, List.map_cons, List.sum_cons, RegularExpression.matches'_add, Language.mem_add,
      RegularExpression.matches'_char, List.exists_mem_cons_iff]
    exact or_congr_right ih

/-- What is optional may be left out. -/
theorem mem_optional : t ∈ (optional p).matches' ↔ t = [] ∨ t ∈ p.matches' := by
  rw [optional, RegularExpression.matches'_add, Language.mem_add, RegularExpression.matches'_epsilon,
    Language.mem_one]

/-- One pattern after another. -/
theorem mem_mul : t ∈ (p * q).matches' ↔ ∃ a ∈ p.matches', ∃ b ∈ q.matches', a ++ b = t := by
  rw [RegularExpression.matches'_mul, Language.mem_mul]

/-- A choice of glyphs any number of times. -/
theorem mem_star_oneOf : t ∈ (oneOf glyphs).star.matches' ↔ ∀ g ∈ t, g ∈ glyphs := by
  rw [RegularExpression.matches'_star, Language.mem_kstar]
  constructor
  · rintro ⟨parts, rfl, hparts⟩ g hg
    obtain ⟨part, hpart, hmem⟩ := List.mem_flatten.mp hg
    obtain ⟨h, hh, rfl⟩ := mem_oneOf.mp (hparts part hpart)
    rw [List.mem_singleton.mp hmem]
    exact hh
  · intro h
    refine ⟨t.map fun g => [g], by simp [← List.flatMap_def], ?_⟩
    intro part hpart
    obtain ⟨g, hg, rfl⟩ := List.mem_map.mp hpart
    exact mem_oneOf.mpr ⟨g, h g hg, rfl⟩

/-- A choice of glyphs at least once. -/
theorem mem_repeated_oneOf :
    t ∈ (repeated (oneOf glyphs)).matches' ↔ t ≠ [] ∧ ∀ g ∈ t, g ∈ glyphs := by
  rw [repeated, mem_mul]
  constructor
  · rintro ⟨_, hfirst, others, hothers, rfl⟩
    obtain ⟨g, hg, rfl⟩ := mem_oneOf.mp hfirst
    refine ⟨List.cons_ne_nil _ _, ?_⟩
    exact List.forall_mem_cons.mpr ⟨hg, mem_star_oneOf.mp hothers⟩
  · rintro ⟨hne, hall⟩
    cases t with
    | nil => exact absurd rfl hne
    | cons g rest =>
      obtain ⟨hg, hrest⟩ := List.forall_mem_cons.mp hall
      exact ⟨[g], mem_oneOf.mpr ⟨g, hg, rfl⟩, rest, mem_star_oneOf.mpr hrest, rfl⟩

/-- A glyph and then a pattern. -/
theorem mem_oneOf_mul :
    t ∈ (oneOf glyphs * p).matches' ↔ ∃ g ∈ glyphs, ∃ rest ∈ p.matches', t = g :: rest := by
  rw [mem_mul]
  constructor
  · rintro ⟨_, hfirst, rest, hrest, rfl⟩
    obtain ⟨g, hg, rfl⟩ := mem_oneOf.mp hfirst
    exact ⟨g, hg, rest, hrest, rfl⟩
  · rintro ⟨g, hg, rest, hrest, rfl⟩
    exact ⟨[g], mem_oneOf.mpr ⟨g, hg, rfl⟩, rest, hrest, rfl⟩

/-- The glyphs that a pattern mentions. -/
def alphabet : RegularExpression Glyph → List Glyph
  | .zero => []
  | .epsilon => []
  | .char g => [g]
  | .plus p q => alphabet p ++ alphabet q
  | .comp p q => alphabet p ++ alphabet q
  | .star p => alphabet p

/-- A text of a pattern has no other glyphs than those that the pattern mentions. -/
theorem mem_alphabet_of_mem {p : RegularExpression Glyph} {t : Text} (h : t ∈ p.matches') :
    ∀ g ∈ t, g ∈ alphabet p := by
  induction p generalizing t with
  | zero => cases h
  | epsilon =>
    cases h
    nofun
  | char g =>
    cases h
    exact fun _ hg => hg
  | plus p q ihp ihq =>
    intro g hg
    rcases h with hp | hq
    · exact List.mem_append_left _ (ihp hp g hg)
    · exact List.mem_append_right _ (ihq hq g hg)
  | comp p q ihp ihq =>
    obtain ⟨u, hu, v, hv, rfl⟩ := h
    intro g hg
    rcases List.mem_append.mp hg with hgu | hgv
    · exact List.mem_append_left _ (ihp hu g hgu)
    · exact List.mem_append_right _ (ihq hv g hgv)
  | star p ih =>
    obtain ⟨parts, rfl, hparts⟩ := h
    intro g hg
    obtain ⟨part, hpart, hgpart⟩ := List.mem_flatten.mp hg
    exact ih (hparts part hpart) g hgpart

end Pattern

namespace Numeral

open Pattern

/-- A digit `0` to `9`. -/
def digitPattern : RegularExpression Glyph :=
  oneOf "0123456789"

/-- A fraction: a point and digits. -/
def fractionPattern : RegularExpression Glyph :=
  oneOf "." * repeated digitPattern

/-- An exponent: its mark, an optional sign and digits. -/
def exponentPattern : RegularExpression Glyph :=
  oneOf "eE" * (optional (oneOf "+-") * repeated digitPattern)

/-- A numeral: an optional minus sign, digits, an optional fraction and an optional exponent. -/
def pattern : RegularExpression Glyph :=
  optional (oneOf "-") *
    (repeated digitPattern * (optional fractionPattern * optional exponentPattern))

/-- What a word that looks like a number starts with: any signs, an optional point and a digit. -/
def startPattern : RegularExpression Glyph :=
  (oneOf "+-").star * (optional (oneOf ".") * digitPattern)

/-- A word that starts like a number. -/
def StartsLikeNumber (word : Text) : Prop :=
  ∃ start ∈ word.inits, start ∈ startPattern.matches'

instance : DecidablePred StartsLikeNumber := fun word =>
  inferInstanceAs (Decidable (∃ start ∈ word.inits, start ∈ startPattern.matches'))

/-- The digits are ten characters. -/
theorem isAsciiDigit_iff_mem (g : Glyph) :
    g.isAsciiDigit = true ↔ g ∈ Text.ofString "0123456789" := by
  constructor
  · intro h
    cases g with
    | stray byte => exact absurd h Bool.false_ne_true
    | char c =>
      obtain ⟨hlow, hhigh⟩ := Bool.and_eq_true_iff.mp h
      replace hlow : 48 ≤ c.toNat := of_decide_eq_true hlow
      replace hhigh : c.toNat ≤ 57 := of_decide_eq_true hhigh
      rw [← Char.ofNat_toNat c]
      generalize c.toNat = n at hlow hhigh
      interval_cases n <;> decide
  · intro h
    have hall : ∀ g ∈ Text.ofString "0123456789", g.isAsciiDigit = true := by decide
    exact hall g h

/-- At least one digit and nothing else. -/
def IsDigits (t : Text) : Prop :=
  t ≠ [] ∧ ∀ g ∈ t, g.isAsciiDigit = true

/-- Digits are the texts of their pattern. -/
theorem mem_repeated_digit {t : Text} : t ∈ (repeated digitPattern).matches' ↔ IsDigits t := by
  rw [digitPattern, mem_repeated_oneOf]
  simp only [← isAsciiDigit_iff_mem, IsDigits]

/-- The digits of a text are split from what follows them. -/
theorem digits_append {ds rest : Text} (hds : IsDigits ds) (hrest : Text.Stops Glyph.isAsciiDigit rest) :
    digits (ds ++ rest) = ds ∧ afterDigits (ds ++ rest) = rest :=
  ⟨Text.takeWhile_append_of_stops hds.2 hrest, Text.dropWhile_append_of_stops hds.2 hrest⟩

/-- A text is the digits at its start and the rest, which does not start with a digit. -/
theorem digits_append_afterDigits (t : Text) : digits t ++ afterDigits t = t :=
  List.takeWhile_append_dropWhile

/-- The digits at the start of a text are digits, if there are any. -/
theorem isDigits_digits {t : Text} (h : (digits t).isEmpty = false) : IsDigits (digits t) :=
  ⟨List.isEmpty_eq_false_iff.mp h, fun _ hg => List.mem_takeWhile_imp hg⟩

/-- Digits and nothing else. -/
theorem digitsOnly_iff {t : Text} : isExponent.digitsOnly t = true ↔ IsDigits t := by
  rw [isExponent.digitsOnly, Bool.and_eq_true, Bool.not_eq_true', List.isEmpty_iff]
  constructor
  · rintro ⟨hdigits, hafter⟩
    have hwhole := digits_append_afterDigits t
    rw [hafter, List.append_nil] at hwhole
    rw [← hwhole]
    exact isDigits_digits hdigits
  · intro h
    obtain ⟨hdigits, hafter⟩ := digits_append h (Text.stops_nil _)
    rw [List.append_nil] at hdigits hafter
    rw [hdigits, hafter]
    exact ⟨List.isEmpty_eq_false_iff.mpr h.1, rfl⟩

/-- Digits start with a digit. -/
theorem IsDigits.exists_cons {t : Text} (h : IsDigits t) :
    ∃ g rest, t = g :: rest ∧ g.isAsciiDigit = true := by
  cases t with
  | nil => exact absurd rfl h.1
  | cons g rest => exact ⟨g, rest, rfl, h.2 g List.mem_cons_self⟩

/-- A digit is no sign, so a text that starts with one keeps its start. -/
theorem afterMinus_of_digit {g : Glyph} (hg : g.isAsciiDigit = true) (rest : Text) :
    afterMinus (g :: rest) = g :: rest ∧ afterSign (g :: rest) = g :: rest := by
  have hminus : g ≠ .char '-' := by
    rintro rfl
    exact absurd hg (by decide)
  have hplus : g ≠ .char '+' := by
    rintro rfl
    exact absurd hg (by decide)
  constructor
  · rw [afterMinus]
    rintro _ ⟨⟩
    exact hminus rfl
  · rw [afterSign]
    · rintro _ ⟨⟩
      exact hplus rfl
    · rintro _ ⟨⟩
      exact hminus rfl

/-- An optional sign and digits. -/
theorem mem_signed_digits {t : Text} :
    t ∈ (optional (oneOf "+-") * repeated digitPattern).matches' ↔ IsDigits (afterSign t) := by
  rw [mem_mul]
  simp only [mem_optional, mem_oneOf, mem_repeated_digit]
  constructor
  · rintro ⟨_, rfl | ⟨g, hg, rfl⟩, ds, hds, rfl⟩
    · obtain ⟨g, rest, rfl, hg⟩ := hds.exists_cons
      rw [List.nil_append, (afterMinus_of_digit hg rest).2]
      exact hds
    · obtain rfl | rfl : g = .char '+' ∨ g = .char '-' := by simpa [Text.ofString] using hg
      · exact hds
      · exact hds
  · intro h
    unfold afterSign at h
    split at h
    · exact ⟨[.char '+'], .inr ⟨_, by simp [Text.ofString], rfl⟩, _, h, rfl⟩
    · exact ⟨[.char '-'], .inr ⟨_, by simp [Text.ofString], rfl⟩, _, h, rfl⟩
    · exact ⟨[], .inl rfl, _, h, rfl⟩

/-- The test for exponents accepts the texts of their pattern and the empty text. -/
theorem isExponent_iff {t : Text} :
    isExponent t = true ↔ t ∈ (optional exponentPattern).matches' := by
  rw [mem_optional, exponentPattern, mem_oneOf_mul]
  simp only [mem_signed_digits, ← digitsOnly_iff]
  unfold isExponent
  split
  · simp
  · simp [Text.ofString]
  · simp [Text.ofString]
  · rename_i hnil hsmall hlarge
    simp only [Bool.false_eq_true, false_iff]
    rintro (rfl | ⟨g, hg, rest, _, rfl⟩)
    · exact hnil rfl
    · obtain rfl | rfl : g = .char 'e' ∨ g = .char 'E' := by simpa [Text.ofString] using hg
      · exact hsmall rest rfl
      · exact hlarge rest rfl

/-- An exponent starts with no digit and no point. -/
theorem exponent_head {t : Text} (h : t ∈ (optional exponentPattern).matches') :
    ∀ g ∈ t.head?, g.isAsciiDigit = false ∧ g ≠ .char '.' := by
  rw [mem_optional, exponentPattern, mem_oneOf_mul] at h
  rcases h with rfl | ⟨g, hg, rest, _, rfl⟩
  · nofun
  · obtain rfl | rfl : g = .char 'e' ∨ g = .char 'E' := by simpa [Text.ofString] using hg
    · simp; decide
    · simp; decide

/-- A text is a fraction or nothing, and what comes after the fraction. -/
theorem exists_fraction (t : Text) :
    ∃ fraction ∈ (optional fractionPattern).matches', fraction ++ afterFraction t = t := by
  simp only [mem_optional, fractionPattern, mem_oneOf_mul, mem_repeated_digit]
  unfold afterFraction
  split
  · rename_i rest
    split
    · exact ⟨[], .inl rfl, rfl⟩
    · rename_i hempty
      refine ⟨.char '.' :: digits rest, .inr ⟨_, by simp [Text.ofString], digits rest, ?_, rfl⟩, ?_⟩
      · exact isDigits_digits (Bool.eq_false_iff.mpr hempty)
      · rw [List.cons_append, digits_append_afterDigits]
  · exact ⟨[], .inl rfl, rfl⟩

/-- A fraction is left out in front of an exponent. -/
theorem afterFraction_append {fraction exponent : Text}
    (hfraction : fraction ∈ (optional fractionPattern).matches')
    (hexponent : exponent ∈ (optional exponentPattern).matches') :
    afterFraction (fraction ++ exponent) = exponent := by
  have hhead := exponent_head hexponent
  rw [mem_optional, fractionPattern, mem_oneOf_mul] at hfraction
  rcases hfraction with rfl | ⟨g, hg, ds, hds, rfl⟩
  · rw [List.nil_append, afterFraction]
    rintro rest rfl
    exact (hhead _ rfl).2 rfl
  · obtain rfl : g = .char '.' := by simpa [Text.ofString] using hg
    rw [mem_repeated_digit] at hds
    obtain ⟨hdigits, hafter⟩ := digits_append hds fun g hg => (hhead g hg).1
    rw [List.cons_append, afterFraction, hdigits, hafter, if_neg]
    simpa using hds.1

/-- A text is a minus sign or nothing, and what comes after it. -/
theorem exists_minus (t : Text) :
    ∃ sign ∈ (optional (oneOf "-")).matches', sign ++ afterMinus t = t := by
  simp only [mem_optional, mem_oneOf]
  unfold afterMinus
  split
  · exact ⟨[.char '-'], .inr ⟨_, by simp [Text.ofString], rfl⟩, rfl⟩
  · exact ⟨[], .inl rfl, rfl⟩

/-- A minus sign is left out in front of a digit. -/
theorem afterMinus_append {sign : Text} (hsign : sign ∈ (optional (oneOf "-")).matches') {g : Glyph}
    (hg : g.isAsciiDigit = true) (rest : Text) : afterMinus (sign ++ g :: rest) = g :: rest := by
  rw [mem_optional, mem_oneOf] at hsign
  rcases hsign with rfl | ⟨minus, hminus, rfl⟩
  · exact (afterMinus_of_digit hg rest).1
  · obtain rfl : minus = .char '-' := by simpa [Text.ofString] using hminus
    rfl

/-- The test for numerals accepts exactly the texts of their pattern. -/
theorem isNumeral_iff {t : Text} : isNumeral t = true ↔ t ∈ pattern.matches' := by
  rw [pattern, mem_mul]
  simp only [mem_mul, mem_repeated_digit]
  constructor
  · intro h
    obtain ⟨hdigits, hexponent⟩ := Bool.and_eq_true_iff.mp h
    obtain ⟨sign, hsign, hrest⟩ := exists_minus t
    obtain ⟨fraction, hfraction, hafter⟩ := exists_fraction (afterDigits (afterMinus t))
    refine ⟨sign, hsign, afterMinus t, ⟨digits (afterMinus t), isDigits_digits (by simpa using hdigits),
      afterDigits (afterMinus t), ⟨fraction, hfraction, _, isExponent_iff.mp hexponent, hafter⟩,
      digits_append_afterDigits _⟩, hrest⟩
  · rintro ⟨sign, hsign, _, ⟨ds, hds, _, ⟨fraction, hfraction, exponent, hexponent, rfl⟩, rfl⟩, rfl⟩
    have hstops : Text.Stops Glyph.isAsciiDigit (fraction ++ exponent) := by
      rw [mem_optional, fractionPattern, mem_oneOf_mul] at hfraction
      rcases hfraction with rfl | ⟨g, hg, rest, _, rfl⟩
      · exact fun g hg => (exponent_head hexponent g hg).1
      · obtain rfl : g = .char '.' := by simpa [Text.ofString] using hg
        exact Text.stops_cons (by decide) rest
    obtain ⟨hdigits, hafter⟩ := digits_append hds hstops
    have hminus :
        afterMinus (sign ++ (ds ++ (fraction ++ exponent))) = ds ++ (fraction ++ exponent) := by
      obtain ⟨g, rest, rfl, hg⟩ := hds.exists_cons
      exact afterMinus_append hsign hg _
    rw [isNumeral, hminus, hdigits, hafter, afterFraction_append hfraction hexponent,
      isExponent_iff.mpr hexponent]
    simpa using hds.1

/-- A word starts like a number exactly when it is signs, an optional point, a digit and a rest. -/
theorem startsLikeNumber_iff {word : Text} :
    StartsLikeNumber word ↔ ∃ signs ∈ (oneOf "+-").star.matches',
      ∃ point ∈ (optional (oneOf ".")).matches', ∃ (g : Glyph) (rest : Text),
        g.isAsciiDigit = true ∧ signs ++ (point ++ g :: rest) = word := by
  simp only [StartsLikeNumber, startPattern, List.mem_inits, mem_mul, digitPattern, mem_oneOf,
    ← isAsciiDigit_iff_mem]
  constructor
  · rintro ⟨_, ⟨rest, rfl⟩, signs, hsigns, _, ⟨point, hpoint, _, ⟨g, hg, rfl⟩, rfl⟩, rfl⟩
    exact ⟨signs, hsigns, point, hpoint, g, rest, hg, by simp⟩
  · rintro ⟨signs, hsigns, point, hpoint, g, rest, hg, rfl⟩
    exact ⟨signs ++ (point ++ [g]), ⟨rest, by simp⟩, signs, hsigns, _,
      ⟨point, hpoint, [g], ⟨g, hg, rfl⟩, rfl⟩, rfl⟩

/-- A text is a point or nothing, and what comes after it. -/
theorem exists_point (t : Text) :
    ∃ point ∈ (optional (oneOf ".")).matches', point ++ looksNumeric.afterPoint t = t := by
  simp only [mem_optional, mem_oneOf]
  unfold looksNumeric.afterPoint
  split
  · exact ⟨[.char '.'], .inr ⟨_, by simp [Text.ofString], rfl⟩, rfl⟩
  · exact ⟨[], .inl rfl, rfl⟩

/-- A point is left out in front of a digit. -/
theorem afterPoint_append {point : Text} (hpoint : point ∈ (optional (oneOf ".")).matches') {g : Glyph}
    (hg : g.isAsciiDigit = true) (rest : Text) :
    looksNumeric.afterPoint (point ++ g :: rest) = g :: rest := by
  rw [mem_optional, mem_oneOf] at hpoint
  rcases hpoint with rfl | ⟨mark, hmark, rfl⟩
  · rw [List.nil_append, looksNumeric.afterPoint]
    rintro _ ⟨⟩
    exact absurd hg (by decide)
  · obtain rfl : mark = .char '.' := by simpa [Text.ofString] using hmark
    rfl

/-- The signs in front of a number. -/
theorem isSign_iff (g : Glyph) :
    (decide (g = .char '+') || decide (g = .char '-')) = true ↔ g ∈ Text.ofString "+-" := by
  simp [Text.ofString]

/-- The test for words that look like numbers accepts exactly those that start like one. -/
theorem looksNumeric_iff {t : Text} : looksNumeric t = true ↔ StartsLikeNumber t := by
  rw [startsLikeNumber_iff, looksNumeric]
  constructor
  · intro h
    obtain ⟨point, hpoint, hafter⟩ :=
      exists_point (t.dropWhile fun g => decide (g = .char '+') || decide (g = .char '-'))
    refine ⟨t.takeWhile fun g => decide (g = .char '+') || decide (g = .char '-'), ?_, point, hpoint, ?_⟩
    · refine mem_star_oneOf.mpr fun g hg => ?_
      have hsign := List.mem_takeWhile_imp hg
      exact (isSign_iff g).mp hsign
    · unfold looksNumeric.startsWithDigit at h
      split at h
      · rename_i g rest hdigit
        refine ⟨g, rest, h, ?_⟩
        rw [← hdigit, hafter, List.takeWhile_append_dropWhile]
      · cases h
  · rintro ⟨signs, hsigns, point, hpoint, g, rest, hg, rfl⟩
    have hall : ∀ s ∈ signs, (decide (s = .char '+') || decide (s = .char '-')) = true :=
      fun s hs => (isSign_iff s).mpr (mem_star_oneOf.mp hsigns s hs)
    have hstops : Text.Stops (fun s => decide (s = .char '+') || decide (s = .char '-'))
        (point ++ g :: rest) := by
      rw [mem_optional, mem_oneOf] at hpoint
      rcases hpoint with rfl | ⟨mark, hmark, rfl⟩
      · refine Text.stops_cons (Bool.eq_false_iff.mpr fun hsign => ?_) rest
        obtain rfl | rfl : g = .char '+' ∨ g = .char '-' := by simpa using hsign
        · exact absurd hg (by decide)
        · exact absurd hg (by decide)
      · obtain rfl : mark = .char '.' := by simpa [Text.ofString] using hmark
        exact Text.stops_cons (by decide) _
    rw [Text.dropWhile_append_of_stops hall hstops, afterPoint_append hpoint hg]
    exact hg

/-- A numeral starts like a number. -/
theorem startsLikeNumber_of_mem_pattern {t : Text} (h : t ∈ pattern.matches') :
    StartsLikeNumber t := by
  rw [pattern, mem_mul] at h
  obtain ⟨sign, hsign, _, hrest, rfl⟩ := h
  obtain ⟨ds, hds, others, -, rfl⟩ := mem_mul.mp hrest
  obtain ⟨g, more, rfl, hg⟩ := (mem_repeated_digit.mp hds).exists_cons
  rw [startsLikeNumber_iff]
  refine ⟨sign, mem_star_oneOf.mpr ?_, [], mem_optional.mpr (.inl rfl), g, more ++ others, hg, rfl⟩
  rcases mem_optional.mp hsign with rfl | hminus
  · nofun
  · obtain ⟨minus, hmem, rfl⟩ := mem_oneOf.mp hminus
    obtain rfl : minus = .char '-' := by simpa [Text.ofString] using hmem
    simp [Text.ofString]

/-- The value of decimal digits, by the powers of ten. -/
def decimal (t : Text) : Nat :=
  Nat.ofDigits 10 (t.reverse.map fun g => g.codePoint - 48)

/-- The number that is computed from digits is their decimal value. -/
theorem natural_eq_decimal (t : Text) : natural t = decimal t := by
  induction t using List.reverseRecOn with
  | nil => rfl
  | append_singleton rest g ih =>
    have hnatural : natural (rest ++ [g]) = 10 * natural rest + (g.codePoint - 48) := by
      simp [natural]
    have hdecimal : decimal (rest ++ [g]) = (g.codePoint - 48) + 10 * decimal rest := by
      simp [decimal, Nat.ofDigits_cons]
    omega

/-- The value of an optional minus sign and digits. -/
def value : Text → Int
  | .char '-' :: rest => -decimal rest
  | t => decimal t

/-- The integer that is computed from a sign and digits is their value. -/
theorem integer_eq_value (t : Text) : integer t = value t := by
  unfold integer
  split
  · rw [natural_eq_decimal, value]
  · rename_i hminus
    rw [natural_eq_decimal, value]
    exact hminus

/-- The integers of 64 bits with a sign. -/
def InRange (n : Int) : Prop :=
  -2 ^ 63 ≤ n ∧ n ≤ 2 ^ 63 - 1

instance : DecidablePred InRange := fun n =>
  inferInstanceAs (Decidable (-2 ^ 63 ≤ n ∧ n ≤ 2 ^ 63 - 1))

/-- The test for the range of integers accepts exactly those of 64 bits. -/
theorem fits_iff {n : Int} : fits n = true ↔ InRange n := by
  have hpow : Int.pow 2 63 = 2 ^ 63 := rfl
  rw [fits, Bool.and_eq_true, decide_eq_true_eq, decide_eq_true_eq, hpow, InRange]
  omega

/-- A point or an exponent mark stands in a text. -/
def HasMark (t : Text) : Prop :=
  .char '.' ∈ t ∨ .char 'e' ∈ t ∨ .char 'E' ∈ t

instance : DecidablePred HasMark := fun t =>
  inferInstanceAs (Decidable (.char '.' ∈ t ∨ .char 'e' ∈ t ∨ .char 'E' ∈ t))

/-- The test for points and exponent marks finds them wherever they stand. -/
theorem isFractional_iff {t : Text} : isFractional t = true ↔ HasMark t := by
  simp only [isFractional, HasMark, List.any_eq_true, Bool.or_eq_true, decide_eq_true_eq]
  constructor
  · rintro ⟨g, hg, (rfl | rfl) | rfl⟩
    · exact .inl hg
    · exact .inr (.inl hg)
    · exact .inr (.inr hg)
  · rintro (hg | hg | hg)
    · exact ⟨_, hg, .inl (.inl rfl)⟩
    · exact ⟨_, hg, .inl (.inr rfl)⟩
    · exact ⟨_, hg, .inr rfl⟩

end Numeral

end SwiftForms
