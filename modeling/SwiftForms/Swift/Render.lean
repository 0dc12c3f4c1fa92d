import SwiftForms.Expr.Outline
import SwiftForms.Library.Basic
import SwiftForms.Swift.Statement

/-!
# Writing expressions in Swift

Calls, literals and variables become Swift expressions; conditionals, bindings, sequences and
declarations become statements. The last form of a function body is written so that every path
through it returns: the value of the form that is reached last, or `false` where that form has no
value. The trees that resolving yields have statements only where statements can stand; a tree that
breaks this, or holds a vector, cannot be written.
-/

namespace SwiftForms

/-- The causes for which an expression cannot be written. -/
inductive RenderFault where
  /-- A vector. -/
  | vector
  /-- A statement where a value is needed. -/
  | statement
  /-- No expression. -/
  | missing
  /-- An expression of a foreign kind. -/
  | unknown
  /-- A comparison of other than two values. -/
  | comparison
  deriving DecidableEq, Repr

/-- The reason that messages give. -/
def RenderFault.reason : RenderFault → Text
  | .vector => "vector in rendering position"
  | .statement => "statement in value position"
  | .missing => "missing expression"
  | .unknown => "unknown expression"
  | .comparison => "comparison needs exactly two arguments"

/-- An expression that cannot be written, and why. -/
structure RenderError where
  /-- The cause. -/
  fault : RenderFault
  /-- The expression. -/
  expr : Expr
  deriving Repr

/-- The message of an error. -/
def RenderError.message (e : RenderError) : Text :=
  "codegen invariant violated: " ++ e.fault.reason ++ ": " ++ e.expr.shown

namespace Render

/-- The value of a function whose last form has none. -/
def noValue : Text :=
  "false"

/-- A call of `name` with arguments that are written already. -/
def callText (lib : Library) (name : Text) (args : List Expr) (texts : List Text) :
    Except RenderError Text :=
  match (lib.targeted? name).map Builtin.style with
  | some .chain => .ok ("(" ++ Text.join (" " ++ name ++ " ") texts ++ ")")
  | some .comparison =>
    match texts with
    | [left, right] => .ok (left ++ " " ++ name ++ " " ++ right)
    | _ => .error ⟨.comparison, .call name args⟩
  | _ => .ok (name ++ "(" ++ Text.join "," texts ++ ")")

mutual

/-- An expression as a Swift expression. -/
def value (lib : Library) : Expr → Except RenderError Text
  | .string text => .ok text
  | .number text => .ok text
  | .symbol name => .ok name
  | .call name args => do
    let texts ← values lib args
    callText lib name args texts
  | .vector items => .error ⟨.vector, .vector items⟩
  | .missing => .error ⟨.missing, .missing⟩
  | .foreign inner => .error ⟨.unknown, .foreign inner⟩
  | e => .error ⟨.statement, e⟩

/-- Expressions as Swift expressions. -/
def values (lib : Library) : List Expr → Except RenderError (List Text)
  | [] => .ok []
  | e :: rest => do
    let text ← value lib e
    let texts ← values lib rest
    return text :: texts

end

/-- The bindings of a block. -/
def bindings (lib : Library) : List (Text × Expr) → Except RenderError (List (Text × Text))
  | [] => .ok []
  | (name, e) :: rest => do
    let text ← value lib e
    let others ← bindings lib rest
    return (name, text) :: others

/-- A Swift expression as a statement. One without text leaves none. -/
def valueStatement (text : Text) : List Stmt :=
  if text.isEmpty then [] else [.value text]

mutual

/-- An expression as statements. The declaration of a function that is implemented elsewhere leaves
none. -/
def statements (lib : Library) : Expr → Except RenderError (List Stmt)
  | .define name params body => do
    let lines ← returning lib body
    return [.function name params lines]
  | .external _ _ _ => .ok []
  | .ifThen test yes => do
    let testText ← value lib test
    let yesLines ← statements lib yes
    return [.ifThen testText yesLines]
  | .ifElse test yes no => do
    let testText ← value lib test
    let yesLines ← statements lib yes
    let noLines ← statements lib no
    return [.ifElse testText yesLines noLines]
  | .bind bound body => do
    let boundTexts ← bindings lib bound
    let lines ← allStatements lib body
    return [.block boundTexts lines]
  | .sequence body => allStatements lib body
  | e => do
    let text ← value lib e
    return valueStatement text

/-- Expressions as statements one after another. -/
def allStatements (lib : Library) : List Expr → Except RenderError (List Stmt)
  | [] => .ok []
  | e :: rest => do
    let first ← statements lib e
    let others ← allStatements lib rest
    return first ++ others

/-- An expression as statements, of which every path returns. -/
def tail (lib : Library) : Expr → Except RenderError (List Stmt)
  | .define name params body => do
    let lines ← returning lib body
    return [.function name params lines, .ret noValue]
  | .external _ _ _ => .ok [.blank, .ret noValue]
  | .ifThen test yes => do
    let testText ← value lib test
    let yesLines ← tail lib yes
    return [.ifThen testText yesLines, .ret noValue]
  | .ifElse test yes no => do
    let testText ← value lib test
    let yesLines ← tail lib yes
    let noLines ← tail lib no
    return [.ifElse testText yesLines noLines]
  | .bind bound body => do
    let boundTexts ← bindings lib bound
    let lines ← returning lib body
    return [.block boundTexts lines]
  | .sequence body => returning lib body
  | e => do
    let text ← value lib e
    return [.ret text]

/-- A function body: the last expression returns. -/
def returning (lib : Library) : List Expr → Except RenderError (List Stmt)
  | [] => .ok [.ret noValue]
  | [e] => tail lib e
  | e :: next :: rest => do
    let first ← statements lib e
    let others ← returning lib (next :: rest)
    return first ++ others

end

end Render

/-- A program in Swift, without the library. -/
def render (lib : Library) (exprs : List Expr) : Except RenderError Text := do
  let lines ← Render.allStatements lib exprs
  return Stmt.print lines

/-- A part of the text that a program starts with, followed by an empty line. -/
def Library.prologuePart (part : Text) : Text :=
  if part.isEmpty then [] else part ++ "\n\n"

/-- The Swift text that a program starts with: the import, the runtime and the implementations of
the builtins. Empty parts are left out. -/
def Library.prologue (lib : Library) : Text :=
  "import Foundation\n\n" ++ Library.prologuePart lib.runtime ++
    lib.builtins.flatMap fun b => Library.prologuePart b.native

end SwiftForms
