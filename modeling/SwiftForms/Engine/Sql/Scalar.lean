import SwiftForms.Engine.Sql.Token

/-!
# Values of settings

How the texts that settings are given stand for switches and numbers. A number counts only if it fits
the width that the setting has for it.
-/

namespace SwiftForms.Sql

/-- The value of a digit in a base up to sixteen. -/
def digitValue (g : Glyph) : Nat :=
  let n := g.codePoint
  if n ≤ 57 then n - 48 else if n ≤ 70 then n - 55 else n - 87

/-- The number that digits spell in a base. -/
def valueOf (base : Nat) (digits : Text) : Nat :=
  digits.foldl (fun n g => n * base + digitValue g) 0

/-- The digits of a number in base sixteen, which starts with `0x`. -/
def hexDigits? : Text → Option Text
  | .char '0' :: .char x :: rest =>
    if (x = 'x' ∨ x = 'X') ∧ 0 < run isHexGlyph rest then some (rest.takeWhile isHexGlyph) else none
  | _ => none

/-- The number without a sign at the start of a text, if it has at most thirty-one bits. -/
def unsignedNumber? (t : Text) : Option Nat :=
  let digits := t.takeWhile Glyph.isAsciiDigit
  let n := match hexDigits? t with
    | some hex => valueOf 16 hex
    | none => valueOf 10 digits
  if digits.isEmpty ∨ Nat.pow 2 31 ≤ n then none else some n

/-- The number at the start of a text, if it has at most thirty-one bits; a number below zero counts
as zero. -/
def leadingNumber? : Text → Option Nat
  | .char '-' :: rest => (unsignedNumber? rest).map fun _ => 0
  | .char '+' :: rest => unsignedNumber? rest
  | t => unsignedNumber? t

/-- Whether a text switches a setting on: the words for it do, and a number whose last eight bits are
not all zero. -/
def isOn (t : Text) : Bool :=
  match t with
  | [] => false
  | g :: _ =>
    if g.isAsciiDigit then (leadingNumber? t).getD 0 % 256 ≠ 0
    else t.lowered = "on" || t.lowered = "yes" || t.lowered = "true"

/-- A text without blanks at its ends. -/
def trimmed (t : Text) : Text :=
  Text.dropEndWhile (t.dropWhile isBlankGlyph) isBlankGlyph

/-- The number that digits spell after an optional sign; a number below zero counts as zero. -/
def signedNumber? (t : Text) : Option Nat :=
  let (negative, digits) := match t with
    | .char '-' :: rest => (true, rest)
    | .char '+' :: rest => (false, rest)
    | _ => (false, t)
  if digits.isEmpty || !digits.all Glyph.isAsciiDigit then none
  else if negative then some 0
  else if valueOf 10 digits < Nat.pow 2 63 then some (valueOf 10 digits) else none

/-- The number that a whole text spells in base ten or sixteen, with blanks around it allowed in base
ten. -/
def wholeNumber? (t : Text) : Option Nat :=
  match hexDigits? t with
  | some digits =>
    if digits.length + 2 = t.length ∧ valueOf 16 digits < Nat.pow 2 63 then some (valueOf 16 digits)
    else none
  | none => signedNumber? (trimmed t)

end SwiftForms.Sql
