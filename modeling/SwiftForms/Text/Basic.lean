/-!
# Text

The texts of the compiler are sequences of *glyphs*. A glyph is a Unicode character or a stray
byte, that is, a byte that belongs to no well-formed UTF-8 sequence. Every byte string is read as
exactly one such sequence, and its bytes can be recovered, so no input is rejected for its encoding
and none is changed by being read. Concatenation is that of lists. Names that the case of their letters
does not tell apart are compared in lower case. Most such names know the letters `A` to `Z` only; a few
also take the two characters outside ASCII whose lower case is an ASCII letter.
-/

namespace SwiftForms

/-- One unit of text. -/
inductive Glyph where
  /-- A Unicode character. -/
  | char (c : Char)
  /-- A byte outside every well-formed UTF-8 sequence. -/
  | stray (byte : UInt8)
  deriving DecidableEq, Repr, Inhabited

/-- A text, from its first glyph to its last. -/
abbrev Text := List Glyph

namespace Glyph

/-- The character in whose place a stray byte is shown. -/
def replacement : Char := '\uFFFD'

/-- The character that stands for a glyph wherever only characters can stand. -/
def shown : Glyph → Char
  | .char c => c
  | .stray _ => replacement

/-- The code point of the character that stands for a glyph. -/
def codePoint (g : Glyph) : Nat :=
  g.shown.toNat

/-- One of the ten digits `0` to `9`. -/
def isAsciiDigit (g : Glyph) : Bool :=
  48 ≤ g.codePoint && g.codePoint ≤ 57

end Glyph

namespace Text

/-- The text of a string. -/
def ofString (s : String) : Text :=
  s.toList.map .char

instance : Coe String Text := ⟨ofString⟩

/-- A natural number in decimal digits. -/
def ofNat (n : Nat) : Text :=
  (Nat.toDigits 10 n).map .char

/-- An integer in decimal digits, with a minus sign when it is negative. -/
def ofInt : Int → Text
  | .ofNat n => ofNat n
  | .negSucc n => .char '-' :: ofNat (n + 1)

/-- A number in base sixteen with lower-case digits, padded with zeros to at least `width`. -/
def hexadecimal (width n : Nat) : Text :=
  let digits := Nat.toDigits 16 n
  (List.replicate (width - digits.length) '0' ++ digits).map .char

/-- A number in base sixteen with upper-case digits, padded with zeros to at least `width`. -/
def hexadecimalUpper (width n : Nat) : Text :=
  (hexadecimal width n).map fun g => .char g.shown.toUpper

/-- The texts one after another, with `separator` between neighbours. -/
def join (separator : Text) : List Text → Text
  | [] => []
  | [t] => t
  | t :: u :: rest => t ++ separator ++ join separator (u :: rest)

/-- The texts one after another. -/
def concat (parts : List Text) : Text :=
  parts.flatten

/-- The pieces of a text between the occurrences of `separator`. There is always at least one. -/
def splitOn (separator : Glyph) : Text → List Text
  | [] => [[]]
  | g :: rest =>
    match splitOn separator rest with
    | [] => [[g]]
    | piece :: pieces => if g = separator then [] :: piece :: pieces else (g :: piece) :: pieces

/-- The lines of a text, without the newlines that divide them. -/
def lines (t : Text) : List Text :=
  t.splitOn (.char '\n')

/-- The rest of a text that starts with `start`. -/
def dropStart? : (start : Text) → Text → Option Text
  | [], t => some t
  | _ :: _, [] => none
  | g :: start, h :: t => if g = h then dropStart? start t else none

/-- Whether a text starts with `start`. -/
def startsWith (t start : Text) : Bool :=
  (dropStart? start t).isSome

/-- Whether a text ends with `ending`. -/
def endsWith (t ending : Text) : Bool :=
  startsWith t.reverse ending.reverse

/-- A text without the glyphs of a set at its end. -/
def dropEndWhile (t : Text) (p : Glyph → Bool) : Text :=
  (t.reverse.dropWhile p).reverse

/-- A separator stands between every two neighbours. -/
theorem join_cons_cons (separator t u : Text) (rest : List Text) :
    join separator (t :: u :: rest) = t ++ separator ++ join separator (u :: rest) :=
  rfl

/-- Splitting never yields the empty list of pieces. -/
theorem splitOn_ne_nil (separator : Glyph) (t : Text) : t.splitOn separator ≠ [] := by
  cases t with
  | nil => simp [splitOn]
  | cons g rest =>
    rw [splitOn]
    split
    · simp
    · split <;> simp

end Text

namespace Glyph

/-- The lower case of one of the letters `A` to `Z`; every other glyph stands for itself. -/
def lowered : Glyph → Glyph
  | .char c => .char c.toLower
  | .stray byte => .stray byte

/-- The lower case of a letter whose lower case is an ASCII letter: `A` to `Z`, the capital I with a
dot, and the sign of the kelvin. -/
def folded : Glyph → Glyph
  | .char '\u0130' => .char 'i'
  | .char '\u212A' => .char 'k'
  | g => g.lowered

end Glyph

namespace Text

/-- A text with the letters `A` to `Z` in lower case. -/
def lowered (t : Text) : Text :=
  t.map Glyph.lowered

/-- A text with every letter in lower case whose lower case is an ASCII letter. -/
def folded (t : Text) : Text :=
  t.map Glyph.folded

end Text

end SwiftForms
