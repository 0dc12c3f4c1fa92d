import SwiftForms.Form.Basic

/-!
# Printing forms

How forms are shown. A position is given by its line and its column, and a kind by its name; kinds have
numbers, too. A form is printed on one line: a word by its spelling, a list or a vector by its brackets
around its forms, with one blank space between neighbours.
-/

namespace SwiftForms

/-- A position as messages give it. -/
def Position.describe (p : Position) : Text :=
  "line " ++ Text.ofInt p.line ++ ", column " ++ Text.ofInt p.column

namespace FormKind

/-- The kinds by number. Numbers beyond the six kinds stand for words that no source text spells. -/
def ofNumber : Int → FormKind
  | 1 => .leaf .string
  | 2 => .leaf .number
  | 3 => .leaf .atom
  | 4 => .group .round
  | 5 => .group .square
  | _ => .leaf .illegal

/-- The name of a kind. -/
def name : FormKind → Text
  | .leaf .string => "STRING"
  | .leaf .number => "NUMBER"
  | .leaf .atom => "ATOM"
  | .leaf .illegal => "ILLEGAL"
  | .group .round => "LIST"
  | .group .square => "VECTOR"

end FormKind

mutual

/-- The text of a form. -/
def Form.print : Form → Text
  | .leaf _ text _ => text
  | .group bracket children _ => bracket.opening :: (printForms children ++ [bracket.closing])

/-- The text of a sequence of forms. -/
def printForms : List Form → Text
  | [] => []
  | [form] => form.print
  | form :: next :: rest => form.print ++ .char ' ' :: printForms (next :: rest)

end

end SwiftForms
