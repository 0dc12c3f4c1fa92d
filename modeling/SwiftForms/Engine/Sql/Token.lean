import SwiftForms.Text.Basic

/-!
# Tokens of SQL

A text of SQL is divided into tokens from left to right, each as long as it can be. Blanks and comments
are tokens of their own. A token that is malformed, such as a string without an end or a number that
runs into letters, is kept as such; it is for the reader of the statement to report it.
-/

namespace SwiftForms.Sql

/-- The kinds of tokens. -/
inductive TokenKind where
  /-- Blanks or a comment. -/
  | blank
  /-- A keyword or a name without quotes. -/
  | word
  /-- A name in quotes or brackets. -/
  | name
  /-- A string. -/
  | string
  /-- A number. -/
  | number
  /-- A mark, an operator, or a value that can stand in expressions only. -/
  | symbol
  /-- Text that is no token. -/
  | malformed
  deriving DecidableEq, Repr

/-- A token with the text that spells it. -/
structure Token where
  /-- The kind. -/
  kind : TokenKind
  /-- The text. -/
  text : Text
  deriving DecidableEq, Repr

/-- Whether a glyph can stand inside a word. -/
def isWordGlyph : Glyph → Bool
  | .char c => c.isAlphanum || c = '_' || c = '$' || 128 ≤ c.toNat
  | .stray _ => true

/-- Whether a glyph is a blank. -/
def isBlankGlyph : Glyph → Bool
  | .char c => c = ' ' || (9 ≤ c.toNat && c.toNat ≤ 13)
  | .stray _ => false

/-- Whether a glyph is a hexadecimal digit. -/
def isHexGlyph : Glyph → Bool
  | .char c => c.isDigit || ('a' ≤ c && c ≤ 'f') || ('A' ≤ c && c ≤ 'F')
  | .stray _ => false

/-- The number of glyphs at the start of a text that belong to a set. -/
def run (p : Glyph → Bool) (t : Text) : Nat :=
  (t.takeWhile p).length

/-- The number of glyphs to the end of a comment, which is that of the text if nothing ends it. -/
def commentLength : Text → Nat
  | .char '*' :: .char '/' :: _ => 2
  | _ :: rest => commentLength rest + 1
  | [] => 0

/-- The number of glyphs up to the quote that ends a quotation and is not doubled. -/
def quotationLength? (quote : Glyph) : Text → Option Nat
  | g :: h :: rest =>
    if g = quote then
      if h = quote then (quotationLength? quote rest).map (· + 2) else some 1
    else (quotationLength? quote (h :: rest)).map (· + 1)
  | [g] => if g = quote then some 1 else none
  | [] => none

/-- The number of glyphs of an exponent. -/
def exponentLength : Text → Nat
  | .char e :: .char c :: rest =>
    if e = 'e' ∨ e = 'E' then
      if c.isDigit then run Glyph.isAsciiDigit rest + 2
      else if (c = '+' ∨ c = '-') ∧ 0 < run Glyph.isAsciiDigit rest then
        run Glyph.isAsciiDigit rest + 2
      else 0
    else 0
  | _ => 0

/-- The number of glyphs of a number in base ten. -/
def decimalLength (t : Text) : Nat :=
  let whole := run Glyph.isAsciiDigit t
  let fraction := match t.drop whole with
    | .char '.' :: rest => run Glyph.isAsciiDigit rest + 1
    | _ => 0
  whole + fraction + exponentLength (t.drop (whole + fraction))

/-- The number of glyphs of a number. -/
def numberLength : Text → Nat
  | .char '0' :: .char x :: rest =>
    if (x = 'x' ∨ x = 'X') ∧ 0 < run isHexGlyph rest then run isHexGlyph rest + 2
    else decimalLength (.char '0' :: .char x :: rest)
  | t => decimalLength t

/-- The number of glyphs of a variable after its mark, and whether it is well formed. It is so if it
has a name, and if a bracket after the name is closed before the next blank. -/
def variableLength (named : Bool) : Text → Bool × Nat
  | [] => (named, 0)
  | g :: rest =>
    if isWordGlyph g then
      let (fine, length) := variableLength true rest
      (fine, length + 1)
    else if g = .char '(' ∧ named then
      let inside := run (fun h => !isBlankGlyph h && h ≠ .char ')') rest
      if (rest.drop inside).head? = some (.char ')') then (true, inside + 2)
      else (false, inside + 1)
    else if g = .char ':' then
      match rest with
      | .char ':' :: more =>
        let (fine, length) := variableLength named more
        (fine, length + 2)
      | _ => (named, 0)
    else (named, 0)

/-- The kind of a token that has a quote, and the number of its glyphs after that. -/
def quotation (quote : Glyph) (rest : Text) : TokenKind × Nat :=
  match quotationLength? quote rest with
  | some length => (if quote = .char '\'' then .string else .name, length)
  | none => (.malformed, rest.length)

/-- The kind of the token at the start of a text that is not empty, and the number of its glyphs after
the first. -/
def measure (g : Glyph) (rest : Text) : TokenKind × Nat :=
  match g with
  | .stray _ => (.word, run isWordGlyph rest)
  | .char c =>
    if c = '\x0b' then (.malformed, 0)
    else if isBlankGlyph g then (.blank, run isBlankGlyph rest)
    else if c = '\uFEFF' then (.blank, 0)
    else if c.isDigit || (c = '.' && 0 < run Glyph.isAsciiDigit rest) then
      let length := numberLength (g :: rest)
      let excess := run isWordGlyph ((g :: rest).drop length)
      (if excess = 0 then .number else .malformed, length + excess - 1)
    else if (c = 'x' ∨ c = 'X') ∧ rest.head? = some (.char '\'') then
      let digits := run isHexGlyph (rest.drop 1)
      let inside := run (· ≠ .char '\'') (rest.drop 1)
      let closed := inside < (rest.drop 1).length
      (if closed ∧ digits = inside ∧ digits % 2 = 0 then .symbol else .malformed,
        inside + if closed then 2 else 1)
    else if c = '$' ∨ c = '@' ∨ c = '#' ∨ c = ':' then
      let (fine, length) := variableLength false rest
      (if fine then .symbol else .malformed, length)
    else if isWordGlyph g then (.word, run isWordGlyph rest)
    else
      match c, rest with
      | '-', .char '-' :: more => (.blank, run (· ≠ .char '\n') more + 1)
      | '-', .char '>' :: .char '>' :: _ => (.symbol, 2)
      | '-', .char '>' :: _ => (.symbol, 1)
      | '/', .char '*' :: h :: more => (.blank, commentLength (h :: more) + 1)
      | '=', .char '=' :: _ => (.symbol, 1)
      | '<', .char '=' :: _ => (.symbol, 1)
      | '<', .char '>' :: _ => (.symbol, 1)
      | '<', .char '<' :: _ => (.symbol, 1)
      | '>', .char '=' :: _ => (.symbol, 1)
      | '>', .char '>' :: _ => (.symbol, 1)
      | '!', .char '=' :: _ => (.symbol, 1)
      | '|', .char '|' :: _ => (.symbol, 1)
      | '\'', _ => quotation g rest
      | '"', _ => quotation g rest
      | '\x60', _ => quotation g rest
      | '[', _ =>
        let inside := run (· ≠ .char ']') rest
        if inside < rest.length then (.name, inside + 1) else (.malformed, rest.length)
      | '?', _ => (.symbol, run Glyph.isAsciiDigit rest)
      | _, _ =>
        (if (Text.ofString "-=<>|()+*/%,&~;.").contains g then .symbol else .malformed, 0)

/-- The tokens of a text. -/
def tokens : Text → List Token
  | [] => []
  | g :: rest =>
    let (kind, length) := measure g rest
    ⟨kind, g :: rest.take length⟩ :: tokens (rest.drop length)
  termination_by t => t.length
  decreasing_by simp only [List.length_drop, List.length_cons]; omega

namespace Token

/-- What is left of a quotation when its last quote is dropped and doubled quotes are read as one. -/
def unquoted (quote : Glyph) : Text → Text
  | g :: h :: rest =>
    if g = quote then if h = quote then quote :: unquoted quote rest else []
    else g :: unquoted quote (h :: rest)
  | [g] => if g = quote then [] else [g]
  | [] => []

/-- What a token stands for: its text, without quotes. -/
def value (token : Token) : Text :=
  match token.kind, token.text with
  | .string, quote :: rest => unquoted quote rest
  | .name, .char '[' :: rest => unquoted (.char ']') rest
  | .name, quote :: rest => unquoted quote rest
  | _, text => text

/-- Whether a token is a keyword. -/
def isKeyword (token : Token) (keyword : Text) : Bool :=
  token.kind = .word && token.text.lowered = keyword

/-- Whether a token is a mark. -/
def isMark (token : Token) (mark : Text) : Bool :=
  token.kind = .symbol && token.text = mark

end Token

end SwiftForms.Sql
