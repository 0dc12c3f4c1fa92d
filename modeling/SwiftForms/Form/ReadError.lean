import SwiftForms.Form.Printer

/-!
# Reading errors

Why a text cannot be read, and where. A fault is *incomplete* when the text ends inside an open
string, list or vector, so that more text might still mend it.
-/

namespace SwiftForms

/-- Lists and vectors nest at most this deep. -/
def maxDepth : Nat :=
  256

/-- The causes of a reading error. -/
inductive ReadFault where
  /-- A closing bracket where nothing is open. -/
  | unexpectedCloser
  /-- The text ends inside a string. -/
  | unterminatedString
  /-- A list or a vector more than `maxDepth` levels deep. -/
  | tooDeep
  /-- A closing bracket of the wrong kind. -/
  | mismatchedCloser
  /-- The text ends inside a list or a vector. -/
  | unterminated (bracket : Bracket)
  /-- A delimiter inside a word. -/
  | strayDelimiter
  /-- An integer that does not fit in 64 bits. -/
  | integerRange
  /-- A word that starts like a number and is none. -/
  | malformedNumber
  deriving DecidableEq, Repr

namespace ReadFault

/-- The reason that messages give. -/
def reason : ReadFault → Text
  | .unexpectedCloser => "unexpected closing delimiter"
  | .unterminatedString => "unterminated string"
  | .tooDeep => "nesting deeper than " ++ Text.ofNat maxDepth
  | .mismatchedCloser => "mismatched closing delimiter"
  | .unterminated .round => "unterminated list"
  | .unterminated .square => "unterminated vector"
  | .strayDelimiter => "stray delimiter in token"
  | .integerRange => "integer literal out of range"
  | .malformedNumber => "malformed number"

/-- Whether the text ends inside something open. -/
def isIncomplete : ReadFault → Bool
  | .unterminatedString => true
  | .unterminated _ => true
  | _ => false

end ReadFault

/-- A reading error. -/
structure ReadError where
  /-- The cause. -/
  fault : ReadFault
  /-- The offending part of the text, as the reader takes it. -/
  fragment : Text
  /-- Where the offending part starts. -/
  pos : Position
  deriving DecidableEq, Repr

/-- The message of a reading error. -/
def ReadError.message (e : ReadError) : Text :=
  "invalid expression at " ++ e.pos.describe ++ ": " ++ e.fault.reason ++ ": " ++ e.fragment

end SwiftForms
