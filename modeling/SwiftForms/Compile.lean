import SwiftForms.Form.Reader
import SwiftForms.Resolve.Basic
import SwiftForms.Swift.Render

/-!
# Compiling

A source text is read into forms, the forms are resolved under a scope, and the expressions are
written in Swift. The first stage that fails decides the error.
-/

namespace SwiftForms

/-- The error of a compilation, by the stage that failed. -/
inductive CompileError where
  /-- The text cannot be read. -/
  | read (error : ReadError)
  /-- The forms cannot be resolved. -/
  | resolve (error : ResolveError)
  /-- The expressions cannot be written. -/
  | render (error : RenderError)
  deriving Repr

namespace CompileError

/-- The name of the stage that failed. -/
def stage : CompileError → Text
  | .read _ => "scan"
  | .resolve _ => "eval"
  | .render _ => "codegen"

/-- The message of an error, with the stage in front. -/
def message (e : CompileError) : Text :=
  e.stage ++ " error: " ++
    match e with
    | .read error => error.message
    | .resolve error => error.message
    | .render error => error.message

/-- Whether the source ends inside an open string, list or vector. -/
def isIncomplete : CompileError → Bool
  | .read error => error.fault.isIncomplete
  | _ => false

/-- Whether the fault lies in the tree and not in the source. -/
def isInternal : CompileError → Bool
  | .render _ => true
  | _ => false

end CompileError

/-- The expressions of a source under a scope, and the scope after it. -/
def resolveSource (scope : Scope) (source : Text) : Except CompileError (List Expr × Scope) := do
  let forms ← (read source).mapError .read
  (resolve scope forms).mapError .resolve

/-- The Swift text of a source under a scope, and the scope after it. -/
def compileUnder (lib : Library) (scope : Scope) (source : Text) :
    Except CompileError (Text × Scope) := do
  let (exprs, next) ← resolveSource scope source
  let swift ← (render lib exprs).mapError .render
  return (swift, next)

/-- The Swift text of a source on its own, without the library. -/
def compileBody (lib : Library) (source : Text) : Except CompileError Text := do
  let (swift, _) ← compileUnder lib (.ofLibrary lib) source
  return swift

/-- The outlines of a source's expressions, each on a line. -/
def outlineSource (lib : Library) (source : Text) : Except CompileError Text := do
  let (exprs, _) ← resolveSource (.ofLibrary lib) source
  return exprs.flatMap fun e => e.outline ++ [.char '\n']

end SwiftForms
