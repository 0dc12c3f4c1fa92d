import SwiftForms.Dict
import SwiftForms.Expr.Basic
import SwiftForms.Library.Basic
import SwiftForms.Text.Encoding

/-!
# Scopes

What is visible at a point of a program: the bound variables and the declared functions, both by
their names in the source, and the identifiers that must not be declared. A scope is a value; binding
or declaring yields a new one.
-/

namespace SwiftForms

/-- A builtin as a function that a program can call. -/
def Builtin.declaration (b : Builtin) : Declaration :=
  ⟨b.target, b.params, .external (some b.native)⟩

/-- The names visible at a point of a program. -/
structure Scope where
  /-- The bound variables. -/
  symbols : List Text
  /-- The declared functions. -/
  functions : Dict Declaration
  /-- The identifiers that must not be declared. -/
  reserved : List Text
  deriving Repr, Inhabited

namespace Scope

/-- The scope in which nothing is visible. -/
def empty : Scope :=
  ⟨[], .empty, []⟩

/-- The scope in which the builtins of a library are declared. -/
def ofLibrary (lib : Library) : Scope where
  symbols := []
  functions := lib.builtins.foldl (fun functions b => functions.insert b.name b.declaration) .empty
  reserved := lib.reserved

/-- Whether a variable is bound. -/
def hasSymbol (s : Scope) (name : Text) : Bool :=
  s.symbols.contains name

/-- The function with a name. -/
def function? (s : Scope) (name : Text) : Option Declaration :=
  s.functions.find? name

/-- Whether some function has a Swift identifier. -/
def hasTarget (s : Scope) (target : Text) : Bool :=
  s.functions.values.any fun d => d.target = target

/-- Whether an identifier must not be declared. -/
def isReserved (s : Scope) (identifier : Text) : Bool :=
  s.reserved.contains identifier

/-- A scope with more variables bound. -/
def withSymbols (s : Scope) (names : List Text) : Scope :=
  { s with symbols := names ++ s.symbols }

/-- A scope with a function declared, in place of any other with its name. -/
def withFunction (s : Scope) (name : Text) (d : Declaration) : Scope :=
  { s with functions := s.functions.insert name d }

/-- The names of the declared functions, in order. -/
def functionNames (s : Scope) : List Text :=
  Text.sort s.functions.keys

/-- A declared function is found by its name. -/
@[simp] theorem function?_withFunction_self (s : Scope) (name : Text) (d : Declaration) :
    (s.withFunction name d).function? name = some d := by
  simp [function?, withFunction, Dict.find?_insert]

end Scope

end SwiftForms
