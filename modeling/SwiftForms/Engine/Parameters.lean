import SwiftForms.Store.Error
import SwiftForms.Text.Percent

/-!
# Parameters

The parameters at the end of the address of a database: fields with ampersands between them, each a
name and, after an equals sign, a value. Names and values are written as form fields. A name may
occur more than once.
-/

namespace SwiftForms

/-- The parameters of an address, by name and value, in order. -/
abbrev Parameters := List (Text × Text)

namespace Parameters

/-- The two sides of the first equals sign of a field. -/
def sides (field : Text) : Text × Text :=
  (field.takeWhile fun g => g ≠ .char '=', (field.dropWhile fun g => g ≠ .char '=').drop 1)

/-- The fields of a text that are not empty. -/
def fields (t : Text) : List Text :=
  (t.splitOn (.char '&')).filter fun field => !field.isEmpty

/-- A name or a value. -/
def fieldText (t : Text) : Except AddressFault Text :=
  match t.fieldText with
  | .ok text => .ok text
  | .error piece => .error (.badEscape piece)

/-- The parameter of a field. -/
def ofField (field : Text) : Except AddressFault (Text × Text) := do
  let name ← fieldText (sides field).1
  let value ← fieldText (sides field).2
  return (name, value)

/-- The parameters of a text. A semicolon anywhere goes before every other fault. -/
def parse (t : Text) : Except AddressFault Parameters :=
  if t.contains (.char ';') then .error .semicolon else (fields t).mapM ofField

/-- The values of a name. -/
def values (parameters : Parameters) (name : Text) : List Text :=
  (parameters.filter fun parameter => parameter.1 = name).map Prod.snd

/-- The first value of a name, empty if there is none. -/
def first (parameters : Parameters) (name : Text) : Text :=
  ((parameters.values name).head?).getD []

end Parameters

end SwiftForms
