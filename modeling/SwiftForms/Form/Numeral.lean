import SwiftForms.Text.Basic

/-!
# Numerals

A numeral is an optional minus sign, digits, an optional fraction with digits after its point, and
an optional exponent with digits after its optional sign. A word that starts like a number without
being a numeral is malformed rather than a name.
-/

namespace SwiftForms.Numeral

/-- The digits at the start of a text. -/
def digits (t : Text) : Text :=
  t.takeWhile Glyph.isAsciiDigit

/-- A text without the digits at its start. -/
def afterDigits (t : Text) : Text :=
  t.dropWhile Glyph.isAsciiDigit

/-- A text without the minus sign at its start. -/
def afterMinus : Text → Text
  | .char '-' :: rest => rest
  | t => t

/-- A text without the sign at its start. -/
def afterSign : Text → Text
  | .char '+' :: rest => rest
  | .char '-' :: rest => rest
  | t => t

/-- A text without the fraction at its start. A point that no digit follows is no fraction. -/
def afterFraction : Text → Text
  | .char '.' :: rest => if (digits rest).isEmpty then .char '.' :: rest else afterDigits rest
  | t => t

/-- Whether a text is empty or an exponent. -/
def isExponent : Text → Bool
  | [] => true
  | .char 'e' :: rest => digitsOnly (afterSign rest)
  | .char 'E' :: rest => digitsOnly (afterSign rest)
  | _ => false
where
  /-- At least one digit and nothing else. -/
  digitsOnly (t : Text) : Bool := !(digits t).isEmpty && (afterDigits t).isEmpty

/-- Whether a text is a numeral. -/
def isNumeral (t : Text) : Bool :=
  !(digits (afterMinus t)).isEmpty && isExponent (afterFraction (afterDigits (afterMinus t)))

/-- Whether a text has a point or an exponent mark, so that it does not spell an integer. -/
def isFractional (t : Text) : Bool :=
  t.any fun g => g = .char '.' || g = .char 'e' || g = .char 'E'

/-- The number that a run of digits spells. -/
def natural (t : Text) : Nat :=
  t.foldl (fun n g => 10 * n + (g.codePoint - 48)) 0

/-- The integer that an optional minus sign and digits spell. -/
def integer : Text → Int
  | .char '-' :: rest => -natural rest
  | t => natural t

/-- Whether an integer fits in 64 bits. -/
def fits (n : Int) : Bool :=
  -Int.pow 2 63 ≤ n && n < Int.pow 2 63

/-- Whether a text starts like a number: a digit, after any signs and at most one point. -/
def looksNumeric (t : Text) : Bool :=
  startsWithDigit (afterPoint (t.dropWhile fun g => g = .char '+' || g = .char '-'))
where
  /-- A text without the point at its start. -/
  afterPoint : Text → Text
    | .char '.' :: rest => rest
    | t => t
  /-- Whether the first glyph is a digit. -/
  startsWithDigit : Text → Bool
    | g :: _ => g.isAsciiDigit
    | [] => false

end SwiftForms.Numeral
