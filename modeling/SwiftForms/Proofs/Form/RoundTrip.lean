import SwiftForms.Form.Printer
import SwiftForms.Proofs.Form.Grammar
import SwiftForms.Proofs.Form.Relocation

/-!
# Printing and reading

Which forms can be written down so that reading gives them back. Main statement: they are the well
formed ones, whose words are spelled as the grammar spells words and which are nested at most 256
levels deep; and reading yields no others. Reading a printed form gives the same form at another
place.
-/

namespace SwiftForms

/-- A glyph that the reader takes as it is: a character that is no newline, tab or carriage return. -/
def Glyph.OnLine : Glyph → Prop
  | .char c => c ≠ '\n' ∧ c ≠ '\t' ∧ c ≠ '\r'
  | .stray _ => False

instance : DecidablePred Glyph.OnLine
  | .char c => inferInstanceAs (Decidable (c ≠ '\n' ∧ c ≠ '\t' ∧ c ≠ '\r'))
  | .stray _ => inferInstanceAs (Decidable False)

/-- The texts that words of a kind may have: a string is a quoted literal on one line, a number is a
numeral that is no integer beyond 64 bits, and a name is a word that does not start like a number. -/
def Leaf.Admits : Leaf → Text → Prop
  | .string, text => (∃ body, text = .char '"' :: body ∧ Reader.Quoted body) ∧ ∀ g ∈ text, g.OnLine
  | .number, text =>
    text ∈ Numeral.pattern.matches' ∧ (Numeral.HasMark text ∨ Numeral.InRange (Numeral.value text))
  | .atom, text =>
    text ≠ [] ∧ (∀ g ∈ text, g.OnLine ∧ g.isPlain = true) ∧ ¬ Numeral.StartsLikeNumber text
  | .illegal, _ => False

/-- A form whose words have texts of their kinds, nested at most so many levels deep. -/
inductive Form.WellFormed : Nat → Form → Prop
  /-- A word. -/
  | leaf {levels kind text pos} (admits : kind.Admits text) : WellFormed levels (.leaf kind text pos)
  /-- A list or a vector is one level around its forms. -/
  | group {levels bracket children pos} (inside : ∀ form ∈ children, WellFormed levels form) :
    WellFormed (levels + 1) (.group bracket children pos)

/-- A form without its positions. -/
def Form.unplaced (form : Form) : Form :=
  form.relocate fun _ => .start

namespace Glyph

/-- The reader takes a glyph as it is exactly if the glyph can stand on a line. -/
theorem normal_eq_self_iff {g : Glyph} : g.normal = g ↔ g.OnLine := by
  cases g with
  | stray byte =>
    constructor
    · intro h
      cases hspace : isSpace (.stray byte) <;> simp [normal, hspace] at h
    · exact False.elim
  | char c =>
    cases hspace : (char c).isSpace with
    | false =>
      have honLine : c ≠ '\n' ∧ c ≠ '\t' ∧ c ≠ '\r' := by
        refine ⟨?_, ?_, ?_⟩ <;> rintro rfl <;> cases hspace
      exact iff_of_true (normal_of_char hspace) honLine
    | true =>
      rw [normal, hspace, if_pos rfl]
      have hrole : role (.char c) = .space := isSpace_iff.mp hspace
      unfold role at hrole
      split at hrole <;> simp_all [OnLine]

/-- What the reader takes can stand on a line. -/
theorem onLine_normal (g : Glyph) : g.normal.OnLine := by
  rw [← normal_eq_self_iff]
  have hspaces : g.normal.isSpace = g.isSpace := by
    rw [isSpace, isSpace, role_normal]
  rw [normal, hspaces]
  cases hspace : g.isSpace <;> simp only [normal, hspace] <;> rfl

end Glyph

namespace Reader

/-- A text on a line is taken as it is. -/
theorem normal_eq_self {t : Text} (h : ∀ g ∈ t, g.OnLine) : Text.normal t = t := by
  rw [Text.normal]
  refine (List.map_congr_left fun g hg => ?_).trans (List.map_id t)
  exact Glyph.normal_eq_self_iff.mpr (h g hg)

/-- The reader takes a string literal as a string literal. -/
theorem Quoted.normal {body : Text} (h : Quoted body) : Quoted (Text.normal body) := by
  induction h with
  | close => exact .close
  | escape g h ih => exact .escape g.normal ih
  | @glyph g rest noQuote noEscape h ih =>
    refine .glyph ?_ ?_ ih
    · intro hquote
      have hrole : g.role = .quote := by
        rw [← g.role_normal, hquote]
        rfl
      exact noQuote (Glyph.eq_quote hrole)
    · intro hescape
      cases hspace : g.isSpace with
      | true => simp [Glyph.normal, hspace] at hescape
      | false =>
        cases g with
        | char c => exact noEscape (Glyph.normal_of_char hspace ▸ hescape)
        | stray byte =>
          rw [Glyph.normal, hspace] at hescape
          cases hescape

/-- The texts of numbers have only characters that belong to words. -/
theorem plain_of_mem_pattern {text : Text} (h : text ∈ Numeral.pattern.matches') :
    ∀ g ∈ text, g.OnLine ∧ g.isPlain = true := by
  have halphabet : ∀ g ∈ Pattern.alphabet Numeral.pattern, g.OnLine ∧ g.isPlain = true := by
    decide
  exact fun g hg => halphabet g (Pattern.mem_alphabet_of_mem h g hg)

/-- A word outside strings has a kind if its text is one of those that the kind admits. -/
theorem wordKind_eq_some_iff {text : Text} {kind : Leaf} :
    (text ≠ [] ∧ (∀ g ∈ text, g.OnLine ∧ g.isPlain = true) ∧ wordKind text = some kind) ↔
      kind ≠ .string ∧ kind.Admits text := by
  unfold wordKind
  constructor
  · rintro ⟨hne, hplain, hkind⟩
    split at hkind
    · cases hkind
      exact ⟨nofun, ‹_›⟩
    · split at hkind
      · cases hkind
      · cases hkind
        exact ⟨nofun, hne, hplain, ‹_›⟩
  · rintro ⟨hstring, hadmits⟩
    cases kind with
    | string => exact absurd rfl hstring
    | number =>
      have hstarts := Numeral.startsLikeNumber_of_mem_pattern hadmits.1
      refine ⟨?_, plain_of_mem_pattern hadmits.1, if_pos hadmits⟩
      rintro rfl
      exact absurd hstarts (by decide)
    | atom =>
      obtain ⟨hne, hplain, hstarts⟩ := hadmits
      refine ⟨hne, hplain, ?_⟩
      rw [if_neg, if_neg hstarts]
      exact fun hnumber => hstarts (Numeral.startsLikeNumber_of_mem_pattern hnumber.1)
    | illegal => exact hadmits.elim

/-- A printed form spells itself wherever it stands, in front of any forms that a space divides from
it. -/
def Reprints (depth : Nat) (form : Form) : Prop :=
  ∀ (pos : Position) (rest : Text) (forms : List Form), Text.Stops notSpace rest →
    Spells depth (pos.after form.print) rest forms →
    ∃ again : Form, again.unplaced = form.unplaced ∧
      Spells depth pos (form.print ++ rest) (again :: forms)

/-- Printed forms spell themselves, since one space stands between neighbours. -/
theorem spells_printForms {depth : Nat} {forms : List Form} (h : ∀ form ∈ forms, Reprints depth form)
    (pos : Position) :
    ∃ again : List Form, again.map Form.unplaced = forms.map Form.unplaced ∧
      Spells depth pos (printForms forms) again := by
  induction forms generalizing pos with
  | nil => exact ⟨[], rfl, .nil⟩
  | cons form rest ih =>
    obtain ⟨hform, hrest⟩ := List.forall_mem_cons.mp h
    cases rest with
    | nil =>
      obtain ⟨again, hagain, hspells⟩ := hform pos [] [] (Text.stops_nil _) .nil
      rw [List.append_nil] at hspells
      exact ⟨[again], congrArg (fun form => [form]) hagain, hspells⟩
    | cons next others =>
      obtain ⟨later, hlater, hspellsLater⟩ := ih hrest ((pos.after form.print).advance (.char ' '))
      have hspace : Glyph.role (.char ' ') = .space := rfl
      have hstops : Text.Stops notSpace (.char ' ' :: printForms (next :: others)) :=
        Text.stops_cons rfl _
      obtain ⟨again, hagain, hspells⟩ := hform pos _ later hstops (.space hspace hspellsLater)
      exact ⟨again :: later, congrArg₂ List.cons hagain hlater, hspells⟩

/-- A word spells itself if its text is admitted for its kind. -/
theorem reprints_leaf {kind : Leaf} {text : Text} (h : kind.Admits text) (depth : Nat)
    (place : Position) : Reprints depth (.leaf kind text place) := by
  intro pos rest forms hstops hlater
  refine ⟨.leaf kind text pos, rfl, ?_⟩
  by_cases hstring : kind = .string
  · subst hstring
    obtain ⟨⟨body, rfl, hbody⟩, honLine⟩ := h
    have hspells := Spells.string hbody hlater
    rw [normal_eq_self honLine] at hspells
    exact hspells
  · obtain ⟨hne, hplain, hkind⟩ := wordKind_eq_some_iff.mpr ⟨hstring, h⟩
    have hnormal := normal_eq_self fun g hg => (hplain g hg).1
    rw [← hnormal] at hkind
    have hspells := Spells.word hne (fun g hg => (hplain g hg).2) hkind hstops hlater
    rw [hnormal] at hspells
    exact hspells

/-- A well formed form spells itself wherever the brackets around it leave room for its levels. -/
theorem reprints_of_wellFormed {levels : Nat} {form : Form} (h : form.WellFormed levels) {depth : Nat}
    (hroom : depth + levels ≤ 256) : Reprints depth form := by
  induction h generalizing depth with
  | leaf admits => exact reprints_leaf admits depth _
  | @group levels bracket children place inside ih =>
    intro pos rest forms hstops hlater
    have hchildren : ∀ form ∈ children, Reprints (depth + 1) form :=
      fun form hform => ih form hform (by omega)
    obtain ⟨again, hagain, hspells⟩ := spells_printForms hchildren (pos.advance bracket.opening)
    refine ⟨.group bracket again pos, ?_, .group (by omega) hspells hlater⟩
    rw [Form.unplaced, Form.unplaced, Form.relocate, Form.relocate, relocateForms_eq_map,
      relocateForms_eq_map]
    exact congrArg (Form.group bracket · .start) hagain

/-- What a text spells is well formed, with as many levels as the brackets around it leave. -/
theorem Spells.wellFormed {depth : Nat} {pos : Position} {t : Text} {forms : List Form}
    (h : Spells depth pos t forms) : ∀ form ∈ forms, form.WellFormed (256 - depth) := by
  induction h with
  | nil => nofun
  | space space later ih => exact ih
  | @string depth pos body rest forms quoted later ih =>
    refine List.forall_mem_cons.mpr ⟨.leaf ⟨⟨Text.normal body, rfl, quoted.normal⟩, ?_⟩, ih⟩
    intro g hg
    obtain ⟨g', -, rfl⟩ := List.mem_map.mp hg
    exact g'.onLine_normal
  | @word depth pos word kind rest forms nonempty plain classified ends later ih =>
    have hplain : ∀ g ∈ Text.normal word, g.OnLine ∧ g.isPlain = true := by
      intro g hg
      obtain ⟨g', hg', rfl⟩ := List.mem_map.mp hg
      refine ⟨g'.onLine_normal, ?_⟩
      rw [Glyph.isPlain, g'.role_normal]
      exact plain g' hg'
    have hne : Text.normal word ≠ [] := List.map_eq_nil_iff.not.mpr nonempty
    have hadmits := wordKind_eq_some_iff.mp ⟨hne, hplain, classified⟩
    exact List.forall_mem_cons.mpr ⟨.leaf hadmits.2, ih⟩
  | @group depth pos bracket interior rest children forms shallow inside later ihInside ihLater =>
    have hlevels : 256 - depth = 256 - (depth + 1) + 1 := by omega
    refine List.forall_mem_cons.mpr ⟨?_, ihLater⟩
    rw [hlevels]
    exact .group ihInside

end Reader

/-- Whether a form is well formed has nothing to do with where it stands. -/
theorem Form.WellFormed.of_unplaced {levels : Nat} {form again : Form} (h : again.WellFormed levels)
    (heq : again.unplaced = form.unplaced) : form.WellFormed levels := by
  induction h generalizing form with
  | @leaf levels kind text pos admits =>
    cases form with
    | leaf kind' text' pos' =>
      cases heq
      exact .leaf admits
    | group bracket' children' pos' => cases heq
  | @group levels bracket children pos inside ih =>
    cases form with
    | leaf kind' text' pos' => cases heq
    | group bracket' children' pos' =>
      rw [unplaced, unplaced, relocate, relocate, relocateForms_eq_map, relocateForms_eq_map,
        Form.group.injEq] at heq
      refine .group fun form hform => ?_
      have hmem : form.unplaced ∈ children.map unplaced :=
        heq.2.1 ▸ List.mem_map_of_mem hform
      obtain ⟨child, hchild, hsame⟩ := List.mem_map.mp hmem
      exact ih child hchild hsame

/-- Reading the printed forms gives the forms back, apart from their places. -/
def ReadsBack (forms : List Form) : Prop :=
  ∃ again, read (printForms forms) = .ok again ∧ again.map Form.unplaced = forms.map Form.unplaced

/-- What is read is well formed. -/
theorem wellFormed_of_read {source : Text} {forms : List Form} (h : read source = .ok forms) :
    ∀ form ∈ forms, form.WellFormed 256 :=
  (read_eq_ok_iff.mp h).wellFormed

/-- Well formed forms read back. -/
theorem readsBack_of_wellFormed {forms : List Form} (h : ∀ form ∈ forms, form.WellFormed 256) :
    ReadsBack forms := by
  have hreprints : ∀ form ∈ forms, Reader.Reprints 0 form :=
    fun form hform => Reader.reprints_of_wellFormed (h form hform) (Nat.zero_add 256).le
  obtain ⟨again, hagain, hspells⟩ := Reader.spells_printForms hreprints .start
  exact ⟨again, read_eq_ok_iff.mpr hspells, hagain⟩

/-- Forms that read back are well formed, as what is read is. -/
theorem wellFormed_of_readsBack {forms : List Form} (h : ReadsBack forms) :
    ∀ form ∈ forms, form.WellFormed 256 := by
  obtain ⟨again, hread, hagain⟩ := h
  intro form hform
  have hmem : form.unplaced ∈ again.map Form.unplaced := hagain ▸ List.mem_map_of_mem hform
  obtain ⟨same, hsame, heq⟩ := List.mem_map.mp hmem
  exact (wellFormed_of_read hread same hsame).of_unplaced heq

/-- The forms that printing and reading give back are exactly the well formed ones, and all that is
ever read is among them. -/
theorem readsBack_iff_wellFormed :
    (∀ forms : List Form, ReadsBack forms ↔ ∀ form ∈ forms, form.WellFormed 256) ∧
    ∀ (source : Text) (forms : List Form), read source = .ok forms →
      (∀ form ∈ forms, form.WellFormed 256) ∧ ReadsBack forms := by
  refine ⟨fun forms => ⟨wellFormed_of_readsBack, readsBack_of_wellFormed⟩, ?_⟩
  intro source forms hread
  have hwell := wellFormed_of_read hread
  exact ⟨hwell, readsBack_of_wellFormed hwell⟩

/-- A string with an escaped quote and a bracket in it, and numbers and names on a second line. -/
def greeting : Text :=
  "(say \"a \\\" )\"\n\t[-12 +x 1e5])"

/-- The forms of the greeting. -/
def greetingForms : List Form :=
  [.group .round
    [.leaf .atom "say" ⟨1, 1, 2⟩, .leaf .string "\"a \\\" )\"" ⟨5, 1, 6⟩,
      .group .square
        [.leaf .number "-12" ⟨16, 2, 3⟩, .leaf .atom "+x" ⟨20, 2, 7⟩, .leaf .number "1e5" ⟨23, 2, 10⟩]
        ⟨15, 2, 2⟩]
    ⟨0, 1, 1⟩]

/-- The greeting is read, its forms are well formed and they read back. -/
theorem readsBack_greeting :
    read greeting = .ok greetingForms ∧
      (∀ form ∈ greetingForms, form.WellFormed 256) ∧ ReadsBack greetingForms := by
  have hread : read greeting = .ok greetingForms := by
    with_unfolding_all rfl
  exact ⟨hread, readsBack_iff_wellFormed.2 greeting greetingForms hread⟩

end SwiftForms
