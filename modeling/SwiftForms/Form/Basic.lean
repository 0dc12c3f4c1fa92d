import SwiftForms.Form.Delimiter
import SwiftForms.Form.Position

/-!
# Forms

What a source text is read into: words, and lists and vectors of forms. The text of a word is kept
as it is spelled, with the quotes of a string. Every form remembers where it stands.
-/

namespace SwiftForms

/-- The kinds of words. -/
inductive Leaf where
  /-- A string literal. -/
  | string
  /-- A number literal. -/
  | number
  /-- A name. -/
  | atom
  /-- A word that no source text spells. -/
  | illegal
  deriving DecidableEq, Repr, Inhabited

/-- A word, or a list or vector of forms, with the position at which it starts. -/
inductive Form where
  /-- A word and its spelling. -/
  | leaf (kind : Leaf) (text : Text) (pos : Position)
  /-- A list, in round brackets, or a vector, in square ones. -/
  | group (bracket : Bracket) (children : List Form) (pos : Position)
  deriving Repr, Inhabited

/-- The kinds of forms. -/
inductive FormKind where
  /-- A word of some kind. -/
  | leaf (kind : Leaf)
  /-- A list or a vector. -/
  | group (bracket : Bracket)
  deriving DecidableEq, Repr

namespace Form

/-- The kind of a form. -/
def kind : Form → FormKind
  | .leaf kind _ _ => .leaf kind
  | .group bracket _ _ => .group bracket

/-- Where a form starts. -/
def pos : Form → Position
  | .leaf _ _ pos => pos
  | .group _ _ pos => pos

/-- The spelling of a word. -/
def text : Form → Text
  | .leaf _ text _ => text
  | .group _ _ _ => []

/-- The forms inside a list or a vector. -/
def children : Form → List Form
  | .leaf _ _ _ => []
  | .group _ children _ => children

end Form

end SwiftForms
