import SwiftForms.Text.Basic

/-!
# Delimiters

The part a glyph plays outside string literals. Round brackets enclose lists, square brackets
enclose vectors, and double quotes enclose strings; those five are the delimiters. Words are
divided by spaces, newlines, tabs and carriage returns and by no other blanks.
-/

namespace SwiftForms

/-- The two kinds of brackets. -/
inductive Bracket where
  /-- `(` and `)`, around a list. -/
  | round
  /-- `[` and `]`, around a vector. -/
  | square
  deriving DecidableEq, Repr, Inhabited

namespace Bracket

/-- The bracket that opens. -/
def opening : Bracket → Glyph
  | .round => .char '('
  | .square => .char '['

/-- The bracket that closes. -/
def closing : Bracket → Glyph
  | .round => .char ')'
  | .square => .char ']'

end Bracket

/-- The part a glyph plays outside string literals. -/
inductive Role where
  /-- It divides words. -/
  | space
  /-- It encloses a string. -/
  | quote
  /-- It opens a list or a vector. -/
  | opens (bracket : Bracket)
  /-- It closes a list or a vector. -/
  | closes (bracket : Bracket)
  /-- It belongs to a word. -/
  | plain
  deriving DecidableEq, Repr

namespace Glyph

/-- The part a glyph plays outside string literals. -/
def role : Glyph → Role
  | .char ' ' => .space
  | .char '\n' => .space
  | .char '\t' => .space
  | .char '\r' => .space
  | .char '"' => .quote
  | .char '(' => .opens .round
  | .char '[' => .opens .square
  | .char ')' => .closes .round
  | .char ']' => .closes .square
  | _ => .plain

/-- Whether a glyph divides words. -/
def isSpace (g : Glyph) : Bool :=
  g.role = .space

/-- Whether a glyph opens a list or a vector. -/
def isOpener (g : Glyph) : Bool :=
  match g.role with
  | .opens _ => true
  | _ => false

/-- Whether a glyph closes a list or a vector. -/
def isCloser (g : Glyph) : Bool :=
  match g.role with
  | .closes _ => true
  | _ => false

/-- Whether a glyph encloses a string, a list or a vector. -/
def isDelimiter (g : Glyph) : Bool :=
  match g.role with
  | .quote | .opens _ | .closes _ => true
  | _ => false

/-- The bracket that closes what a glyph opens. -/
def closer? (g : Glyph) : Option Glyph :=
  match g.role with
  | .opens bracket => some bracket.closing
  | _ => none

/-- A glyph as the reader takes it: every space is a blank space and every stray byte is the
character that stands for it. -/
def normal (g : Glyph) : Glyph :=
  if g.isSpace then .char ' ' else .char g.shown

end Glyph

/-- A text as the reader takes it. -/
def Text.normal (t : Text) : Text :=
  t.map Glyph.normal

end SwiftForms
