import SwiftForms.Text.Basic

/-!
# Names that Swift text declares

The identifiers that a Swift text declares at the start of a line: a declaring keyword, blanks, which
may run over several lines, and an identifier of ASCII letters, digits and underscores. Declarations
further inside a line, such as those of a type's members, do not count. A name is looked for again
only after the end of the last one found.
-/

namespace SwiftForms.Declared

/-- The keywords that declare. -/
def keywords : List Text :=
  ["func", "enum", "struct", "class", "let", "var", "typealias"].map Text.ofString

/-- Whether a glyph may stand between a keyword and the name it declares. -/
def isGap (g : Glyph) : Bool :=
  g = .char ' ' || g = .char '\t' || g = .char '\n' || g = .char '\r' || g = .char '\x0c'

/-- Whether a glyph may start a declared name. -/
def startsName (g : Glyph) : Bool :=
  g = .char '_' || (65 ≤ g.codePoint && g.codePoint ≤ 90) || (97 ≤ g.codePoint && g.codePoint ≤ 122)

/-- Whether a glyph may continue a declared name. -/
def continuesName (g : Glyph) : Bool :=
  startsName g || g.isAsciiDigit

/-- The rest of a text that starts with a declaring keyword. -/
def afterKeyword? (t : Text) : Option Text :=
  keywords.findSome? fun keyword => Text.dropStart? keyword t

/-- The name that a text declares at its start, and the rest after the name. -/
def leadingName? (t : Text) : Option (Text × Text) :=
  match afterKeyword? t with
  | none => none
  | some rest =>
    match rest.takeWhile isGap, rest.dropWhile isGap with
    | _ :: _, g :: after =>
      if startsName g then
        some (g :: after.takeWhile continuesName, after.dropWhile continuesName)
      else none
    | _, _ => none

/-- The rest after a keyword is no longer than the text. -/
theorem length_dropStart?_le {start t rest : Text} (h : Text.dropStart? start t = some rest) :
    rest.length ≤ t.length := by
  induction start generalizing t with
  | nil =>
    cases h
    exact Nat.le_refl _
  | cons g start ih =>
    cases t with
    | nil => simp [Text.dropStart?] at h
    | cons k t =>
      rw [Text.dropStart?] at h
      split at h
      · exact Nat.le_succ_of_le (ih h)
      · cases h

/-- A name that is found leaves a shorter text. -/
theorem length_of_leadingName? {t name rest : Text} (h : leadingName? t = some (name, rest)) :
    rest.length < t.length := by
  unfold leadingName? at h
  split at h
  · cases h
  · rename_i after hafter
    obtain ⟨keyword, _, hkeyword⟩ := List.exists_of_findSome?_eq_some hafter
    have hrest := length_dropStart?_le hkeyword
    split at h
    · rename_i gap g tail _ hdrop
      split at h
      · obtain ⟨rfl, rfl⟩ := Prod.mk.inj (Option.some.inj h)
        have hname := (tail.dropWhile_suffix continuesName).length_le
        have hgap := (after.dropWhile_suffix isGap).length_le
        rw [hdrop, List.length_cons] at hgap
        omega
      · cases h
    · cases h

/-- The names declared in a text; `atLineStart` tells whether its first glyph starts a line. -/
def namesFrom (atLineStart : Bool) (t : Text) : List Text :=
  match t with
  | [] => []
  | g :: rest =>
    match atLineStart, _hname : leadingName? (g :: rest) with
    | true, some (name, after) => name :: namesFrom false after
    | _, _ => namesFrom (g = .char '\n') rest
  termination_by t.length
  decreasing_by
    · exact length_of_leadingName? _hname
    · simp

/-- The names that a Swift text declares. -/
def names (swift : Text) : List Text :=
  namesFrom true swift

end SwiftForms.Declared
