import SwiftForms.Text.Basic

/-!
# The bytes of a text

A character is written as its UTF-8 bytes and a stray byte as itself. In the other direction the
longest-known well-formed sequence at the front becomes a character, and a byte that starts none
becomes a stray byte on its own, so that reading resumes at the very next byte. Texts are ordered as byte
strings: the first byte that differs decides, and a text precedes its extensions. On texts without stray
bytes this is the order of code points.
-/

namespace SwiftForms

/-- The bytes of one glyph. -/
def Glyph.bytes : Glyph → List UInt8
  | .char c => String.utf8EncodeChar c
  | .stray byte => [byte]

namespace Text

/-- The bytes of a text. -/
def bytes (t : Text) : List UInt8 :=
  t.flatMap Glyph.bytes

/-- The number of bytes of a text. -/
def byteSize (t : Text) : Nat :=
  t.bytes.length

/-- Bounds, inclusive, on the second byte of a sequence that starts with `lead`, and the number of
bytes after the first. The bounds keep out over-long sequences, surrogates and code points beyond
the last one. -/
def followers? (lead : Nat) : Option (Nat × Nat × Nat) :=
  if 0xC2 ≤ lead && lead ≤ 0xDF then some (0x80, 0xBF, 1)
  else if lead = 0xE0 then some (0xA0, 0xBF, 2)
  else if lead = 0xED then some (0x80, 0x9F, 2)
  else if 0xE1 ≤ lead && lead ≤ 0xEF then some (0x80, 0xBF, 2)
  else if lead = 0xF0 then some (0x90, 0xBF, 3)
  else if 0xF1 ≤ lead && lead ≤ 0xF3 then some (0x80, 0xBF, 3)
  else if lead = 0xF4 then some (0x80, 0x8F, 3)
  else none

/-- Whether a byte continues a sequence. -/
def isContinuation (b : UInt8) : Bool :=
  0x80 ≤ b.toNat && b.toNat ≤ 0xBF

/-- The character whose sequence starts with `lead` and goes on in `rest`, with the number of bytes
it takes from `rest`. -/
def leadingChar? (lead : UInt8) (rest : List UInt8) : Option (Char × Nat) :=
  if lead.toNat < 0x80 then some (Char.ofNat lead.toNat, 0)
  else
    match followers? lead.toNat, rest with
    | some (low, high, 1), b :: _ =>
      if low ≤ b.toNat && b.toNat ≤ high then
        some (Char.ofNat ((lead.toNat - 0xC0) * 64 + (b.toNat - 0x80)), 1)
      else none
    | some (low, high, 2), b :: c :: _ =>
      if low ≤ b.toNat && b.toNat ≤ high && isContinuation c then
        some (Char.ofNat ((lead.toNat - 0xE0) * 4096 + (b.toNat - 0x80) * 64 + (c.toNat - 0x80)), 2)
      else none
    | some (low, high, 3), b :: c :: d :: _ =>
      if low ≤ b.toNat && b.toNat ≤ high && isContinuation c && isContinuation d then
        some (Char.ofNat ((lead.toNat - 0xF0) * 262144 + (b.toNat - 0x80) * 4096 +
          (c.toNat - 0x80) * 64 + (d.toNat - 0x80)), 3)
      else none
    | _, _ => none

/-- The text of a byte string. -/
def ofBytes : List UInt8 → Text
  | [] => []
  | lead :: rest =>
    match leadingChar? lead rest with
    | some (c, taken) => .char c :: ofBytes (rest.drop taken)
    | none => .stray lead :: ofBytes rest
  termination_by bytes => bytes.length
  decreasing_by all_goals simp only [List.length_drop, List.length_cons]; omega

/-- The bytes of a concatenation. -/
@[simp] theorem bytes_append (t u : Text) : (t ++ u).bytes = t.bytes ++ u.bytes := by
  simp [bytes]

/-- Lexicographic order of byte strings. -/
def bytesLe : List UInt8 → List UInt8 → Bool
  | [], _ => true
  | _ :: _, [] => false
  | a :: as, b :: bs => if a = b then bytesLe as bs else a.toNat ≤ b.toNat

/-- Whether `t` does not come after `u`. -/
def le (t u : Text) : Bool :=
  bytesLe t.bytes u.bytes

/-- A list of texts in order. Equal texts keep their places relative to each other. -/
def sort (ts : List Text) : List Text :=
  ts.mergeSort le

end Text

end SwiftForms
