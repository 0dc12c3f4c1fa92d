import SwiftForms.Text.Encoding

/-!
# Percent escapes

A byte is escaped as a percent sign and two hexadecimal digits. There are two ways to read escapes:
leniently, where a percent sign that starts no escape stands for itself, and strictly, where it is an
error. The strict way is that of form fields, in which a plus sign stands for a space.
-/

namespace SwiftForms.Text

/-- The percent sign. -/
def percentSign : UInt8 :=
  37

/-- The value of a hexadecimal digit, in either case. -/
def hexValue? (b : UInt8) : Option UInt8 :=
  if 48 ≤ b && b ≤ 57 then some (b - 48)
  else if 65 ≤ b && b ≤ 70 then some (b - 55)
  else if 97 ≤ b && b ≤ 102 then some (b - 87)
  else none

/-- The byte that two hexadecimal digits spell. -/
def escapedByte? (high low : UInt8) : Option UInt8 := do
  let h ← hexValue? high
  let l ← hexValue? low
  return h * 16 + l

/-- Bytes with their escapes undone, read leniently. -/
def unescapeBytes : List UInt8 → List UInt8
  | b :: high :: low :: rest =>
    if b = percentSign then
      match escapedByte? high low with
      | some byte => byte :: unescapeBytes rest
      | none => b :: unescapeBytes (high :: low :: rest)
    else b :: unescapeBytes (high :: low :: rest)
  | bytes => bytes

/-- The byte that stands in a form field for one that is not part of an escape. -/
def fieldByte (b : UInt8) : UInt8 :=
  if b = 43 then 32 else b

/-- Bytes of a form field with their escapes undone, read strictly. An error holds the bytes, three at
most, that should have been an escape. -/
def fieldBytes : List UInt8 → Except (List UInt8) (List UInt8)
  | b :: high :: low :: rest =>
    if b = percentSign then
      match escapedByte? high low with
      | some byte => (fieldBytes rest).map (byte :: ·)
      | none => .error [b, high, low]
    else (fieldBytes (high :: low :: rest)).map (fieldByte b :: ·)
  | [b, c] =>
    if b = percentSign then .error [b, c]
    else if c = percentSign then .error [c]
    else .ok [fieldByte b, fieldByte c]
  | [b] => if b = percentSign then .error [b] else .ok [fieldByte b]
  | [] => .ok []

/-- A text with its escapes undone, read leniently. The rest after an escaped zero byte is dropped. -/
def unescaped (t : Text) : Text :=
  ofBytes ((unescapeBytes t.bytes).takeWhile fun b => b ≠ 0)

/-- A form field with its escapes undone, read strictly. An error holds the text that should have been
an escape. -/
def fieldText (t : Text) : Except Text Text :=
  match fieldBytes t.bytes with
  | .ok bytes => .ok (ofBytes bytes)
  | .error piece => .error (ofBytes piece)

end SwiftForms.Text
