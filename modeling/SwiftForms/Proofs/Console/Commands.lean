import SwiftForms.Console
import SwiftForms.Proofs.Compile.Concatenation
import SwiftForms.Proofs.Form.Grammar
import SwiftForms.Proofs.Resolve.Declarations
import SwiftForms.Proofs.Text.Lines

/-!
# Programs and commands

No program that compiles starts like a command of the console. A colon, or a blank that is no space
for the reader, starts a word; such a word is a name; and outside all functions no name stands for a
value. So what the console takes for a command is never a part of a program, and what it takes for
nothing is nothing to the reader too.
-/

namespace SwiftForms

/-- A space is blank. -/
theorem Glyph.isBlank_of_isSpace {g : Glyph} (h : g.isSpace = true) : g.isBlank = true := by
  have hrole := isSpace_iff.mp h
  unfold role at hrole
  split at hrole <;> cases hrole <;> rfl

/-- A blank that is no space belongs to a word. -/
theorem Glyph.isPlain_of_isBlank {g : Glyph} (hblank : g.isBlank = true) (hspace : g.isSpace = false) :
    g.isPlain = true := by
  cases hrole : g.role with
  | plain => rw [isPlain, hrole, decide_eq_true rfl]
  | space =>
    rw [isSpace_iff.mpr hrole] at hspace
    cases hspace
  | quote =>
    rw [eq_quote hrole] at hblank
    cases hblank
  | opens bracket =>
    rw [eq_opening hrole] at hblank
    cases bracket <;> cases hblank
  | closes bracket =>
    rw [eq_closing hrole] at hblank
    cases bracket <;> cases hblank

/-- Numerals have no blanks and no colons. -/
theorem Numeral.alphabet_pattern :
    ∀ g ∈ Pattern.alphabet Numeral.pattern, g.isBlank = false ∧ g ≠ .char ':' := by
  decide

namespace Reader

/-- The spaces at the start of a text have no part in its forms. -/
theorem readForms_dropWhile_isSpace (depth : Nat) (pos : Position) (t : Text) :
    ∃ place, readForms depth pos t = readForms depth place (t.dropWhile Glyph.isSpace) := by
  induction t generalizing pos with
  | nil => exact ⟨pos, rfl⟩
  | cons g rest ih =>
    cases hspace : g.isSpace with
    | false =>
      rw [List.dropWhile_cons_of_neg (by simp [hspace])]
      exact ⟨pos, rfl⟩
    | true =>
      obtain ⟨place, hplace⟩ := ih (pos.advance g)
      refine ⟨place, ?_⟩
      have hhead : head depth (g :: rest) = .space g rest := by
        rw [head, Glyph.isSpace_iff.mp hspace]
      rw [List.dropWhile_cons_of_pos hspace, ← hplace, readForms_eq, hhead]

/-- A word that starts with a glyph outside numerals is a name. -/
theorem atom_of_readForms {depth : Nat} {pos : Position} {g : Glyph} {rest : Text} {forms : List Form}
    (hplain : g.isPlain = true) (hnumeral : g.normal ∉ Pattern.alphabet Numeral.pattern)
    (h : readForms depth pos (g :: rest) = .ok forms) :
    ∃ name others, forms = .leaf .atom name pos :: others := by
  have hrole : g.role = .plain := of_decide_eq_true hplain
  rw [readForms_eq] at h
  cases hkind : classify (Text.normal (g :: rest.takeWhile fun h => !h.isSpace)) with
  | error fault => simp [head, hrole, hkind] at h
  | ok kind =>
    simp only [head, hrole, hkind] at h
    obtain ⟨others, -, hforms⟩ := Fallible.bind_eq_ok.mp h
    cases hforms
    obtain ⟨-, hword⟩ := classify_eq_ok_iff.mp hkind
    rw [wordKind] at hword
    split at hword
    · next hnumber =>
      exact absurd (Pattern.mem_alphabet_of_mem hnumber.1 g.normal List.mem_cons_self) hnumeral
    · split at hword
      · cases hword
      · cases hword
        exact ⟨_, _, rfl⟩

end Reader

/-- A program binds no variables for what comes after it. -/
theorem symbols_of_compileUnder {lib : Library} {scope final : Scope} {source swift : Text}
    (h : compileUnder lib scope source = .ok (swift, final)) : final.symbols = scope.symbols := by
  obtain ⟨forms, exprs, -, hresolve, -⟩ := compileUnder_eq_ok.mp h
  exact Resolve.symbols_of_sequence hresolve

/-- A program does not start with a name where no variables are bound. -/
theorem Resolve.sequence_atom_cons {scope : Scope} (hsymbols : scope.symbols = []) (name : Text)
    (pos : Position) (rest : List Form) (result : List Expr × Scope) :
    sequence scope (.leaf .atom name pos :: rest) ≠ .ok result := by
  intro h
  obtain ⟨expr, hexpr, -⟩ := Fallible.bind_eq_ok.mp h
  simp [form, Scope.hasSymbol, hsymbols] at hexpr

/-- The first glyph of a program after its spaces is neither blank nor a colon. -/
theorem first_of_compileUnder {lib : Library} {scope final : Scope} {source swift rest : Text}
    {g : Glyph} (hsymbols : scope.symbols = [])
    (h : compileUnder lib scope source = .ok (swift, final))
    (hfirst : source.dropWhile Glyph.isSpace = g :: rest) : g.isBlank = false ∧ g ≠ .char ':' := by
  obtain ⟨forms, exprs, hread, hresolve, -⟩ := compileUnder_eq_ok.mp h
  obtain ⟨place, hplace⟩ := Reader.readForms_dropWhile_isSpace 0 .start source
  rw [read_eq, hplace, hfirst] at hread
  have hspace : g.isSpace = false := by
    have hstops := Text.stops_dropWhile Glyph.isSpace source
    rw [hfirst] at hstops
    exact hstops g rfl
  have hname : g.isPlain = true → g.normal ∈ Pattern.alphabet Numeral.pattern := by
    intro hplain
    by_contra hnumeral
    obtain ⟨name, others, rfl⟩ := Reader.atom_of_readForms hplain hnumeral hread
    exact Resolve.sequence_atom_cons hsymbols name place others _ hresolve
  constructor
  · by_contra hblank
    rw [Bool.not_eq_false] at hblank
    have hnormal := (Numeral.alphabet_pattern _ (hname (Glyph.isPlain_of_isBlank hblank hspace))).1
    rw [Glyph.normal, hspace] at hnormal
    exact absurd (hnormal.symm.trans hblank) Bool.false_ne_true
  · rintro rfl
    exact (Numeral.alphabet_pattern _ (hname (by decide))).2 (by decide)

/-- An input at the start of a program starts with no blanks but spaces, and not with a colon. -/
theorem start_of_compileUnder {lib : Library} {scope final : Scope} {input rest swift : Text}
    (hsymbols : scope.symbols = []) (h : compileUnder lib scope (input ++ rest) = .ok (swift, final)) :
    input.dropWhile Glyph.isBlank = input.dropWhile Glyph.isSpace ∧
      input.trim.head? ≠ some (.char ':') := by
  have hstart : ∀ g ∈ (input.dropWhile Glyph.isSpace).head?, g.isBlank = false ∧ g ≠ .char ':' := by
    intro g hg
    cases hinput : input.dropWhile Glyph.isSpace with
    | nil =>
      rw [hinput] at hg
      cases hg
    | cons first more =>
      rw [hinput] at hg
      cases hg
      have hwhole : (input ++ rest).dropWhile Glyph.isSpace = g :: (more ++ rest) := by
        rw [List.dropWhile_append, hinput]
        rfl
      exact first_of_compileUnder hsymbols h hwhole
  have hdrop := Text.dropWhile_eq_of_stops (fun _ => Glyph.isBlank_of_isSpace) fun g hg =>
    (hstart g hg).1
  refine ⟨hdrop, ?_⟩
  rw [Text.head?_trim, hdrop]
  intro hcolon
  exact (hstart _ hcolon).2 rfl

end SwiftForms
