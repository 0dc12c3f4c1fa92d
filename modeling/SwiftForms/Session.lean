import SwiftForms.Compile

/-!
# Sessions

A session compiles sources one after another as one program: a source sees the functions that earlier
ones declared. A source that fails leaves the session as it was.
-/

namespace SwiftForms

/-- A library and what has been declared so far. -/
structure Session where
  /-- The library. -/
  library : Library
  /-- The scope that the next source is compiled under. -/
  scope : Scope

namespace Session

/-- A session in which only the builtins are declared. -/
def start (lib : Library) : Session :=
  ⟨lib, .ofLibrary lib⟩

/-- Compiles a source. The scope advances only if that succeeds. -/
def compile (s : Session) (source : Text) : Except CompileError Text × Session :=
  match compileUnder s.library s.scope source with
  | .ok (swift, next) => (.ok swift, { s with scope := next })
  | .error e => (.error e, s)

/-- Forgets all declarations. -/
def reset (s : Session) : Session :=
  start s.library

/-- The names of all functions, in order. -/
def functions (s : Session) : List Text :=
  s.scope.functionNames

/-- The names of the functions that are no builtins, in order. -/
def declared (s : Session) : List Text :=
  s.functions.filter fun name => (s.library.named? name).isNone

end Session

end SwiftForms
