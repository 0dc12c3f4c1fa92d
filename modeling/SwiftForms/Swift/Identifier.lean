import SwiftForms.Text.Letter

/-!
# Swift identifiers

How a source name is spelled in Swift. Letters, digits and underscores stay. A hyphen becomes an
underscore, a few marks that Lisp names end in become words, and every other character becomes its
code point. A name that would start with a digit gets an underscore in front, and a name that would
be a Swift keyword is put in backquotes.
-/

namespace SwiftForms.Identifier

/-- The words that Swift does not take as identifiers. -/
def keywords : List Text :=
  ["associatedtype", "class", "deinit", "enum", "extension", "fileprivate", "func", "import", "init",
   "inout", "internal", "let", "open", "operator", "private", "precedencegroup", "protocol",
   "public", "rethrows", "static", "struct", "subscript", "typealias", "var", "break", "case",
   "catch", "continue", "default", "defer", "do", "else", "fallthrough", "for", "guard", "if", "in",
   "repeat", "return", "throw", "switch", "where", "while", "as", "Any", "false", "is", "nil", "self",
   "Self", "super", "throws", "true", "try"].map Text.ofString

/-- The spelling of one glyph of a name; `first` tells whether it is the first one. -/
def spellGlyph (first : Bool) (g : Glyph) : Text :=
  let shown : Glyph := .char g.shown
  if shown = .char '_' || shown.isLetter then [shown]
  else if shown.isDecimalDigit then if first then [.char '_', shown] else [shown]
  else
    match g.shown with
    | '-' => "_"
    | '?' => "_p"
    | '!' => "_bang"
    | '*' => "_star"
    | c => "_u" ++ Text.hexadecimalUpper 4 c.toNat

/-- The spelling of the rest of a name. -/
def spellRest (name : Text) : Text :=
  name.flatMap (spellGlyph false)

/-- The spelling of a name, keyword or not. -/
def spell : Text → Text
  | [] => []
  | g :: rest => spellGlyph true g ++ spellRest rest

/-- The Swift identifier for a source name. -/
def ofName (name : Text) : Text :=
  if keywords.contains (spell name) then .char '\x60' :: (spell name ++ [.char '\x60']) else spell name

end SwiftForms.Identifier
