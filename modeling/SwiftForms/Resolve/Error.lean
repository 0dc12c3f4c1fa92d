import SwiftForms.Form.Printer

/-!
# Resolving errors

Why the forms of a program make no expressions, with the offending name or forms and the position.
-/

namespace SwiftForms

/-- The causes of a resolving error. -/
inductive ResolveFault where
  /-- A declaration that has not the shape of one. -/
  | invalidDeclaration
  /-- A function that is declared already. -/
  | alreadyExists
  /-- A call of a function that is not declared. -/
  | undeclared
  /-- A form that has not the shape of an expression, or stands where a value is needed. -/
  | invalidExpression
  /-- A variable that is not bound. -/
  | unknownSymbol
  /-- A call with the wrong number of arguments. -/
  | incorrectArguments
  /-- A name that must not be declared. -/
  | reservedName
  /-- No known cause. -/
  | unknown
  deriving DecidableEq, Repr

namespace ResolveFault

/-- The causes by number. -/
def ofNumber : Int → ResolveFault
  | 1 => .invalidDeclaration
  | 2 => .alreadyExists
  | 3 => .undeclared
  | 4 => .invalidExpression
  | 5 => .unknownSymbol
  | 6 => .incorrectArguments
  | 7 => .reservedName
  | _ => .unknown

/-- The words for a cause. -/
def describe : ResolveFault → Text
  | .invalidDeclaration => "invalid function declaration"
  | .alreadyExists => "function already exists"
  | .undeclared => "undeclared function"
  | .invalidExpression => "invalid expression"
  | .unknownSymbol => "unknown symbol"
  | .incorrectArguments => "incorrect arguments"
  | .reservedName => "reserved name"
  | .unknown => "unknown error"

end ResolveFault

/-- A resolving error. -/
structure ResolveError where
  /-- The cause. -/
  fault : ResolveFault
  /-- The offending name, if the cause lies in one. -/
  name : Text
  /-- The offending forms, if the cause lies in them. -/
  forms : List Form
  /-- The number of arguments that a call should have. -/
  want : Int
  /-- Where the offending form starts. -/
  pos : Position
  deriving Repr

namespace ResolveError

/-- What is said after the words for the cause. -/
def details (e : ResolveError) : Text :=
  match e.fault with
  | .incorrectArguments =>
    let counts := " to " ++ e.name ++ ": expected " ++ Text.ofInt e.want ++ ", got " ++
      Text.ofNat e.forms.length
    if e.forms.isEmpty then counts else counts ++ ": " ++ printForms e.forms
  | .invalidDeclaration | .invalidExpression =>
    if e.forms.isEmpty then [] else ": (" ++ printForms e.forms ++ ")"
  | _ => if e.name.isEmpty then [] else ": " ++ e.name

/-- The message of an error. The position is left out for a form that was not read from a text. -/
def message (e : ResolveError) : Text :=
  (if 0 < e.pos.line then e.pos.describe ++ ": " else []) ++ e.fault.describe ++ e.details

end ResolveError

end SwiftForms
