import SwiftForms.Text.Basic

/-!
# Expressions

A program after its names have been resolved: calls, conditionals, bindings, sequences, vectors,
literals, references to variables and declarations of functions. Names are Swift identifiers here.
Two further cases let a tree be built by other means than resolving a source: an expression may be
missing, and it may be of a kind that Swift cannot be written for.
-/

namespace SwiftForms

/-- A resolved expression. -/
inductive Expr where
  /-- A string literal, with its quotes. -/
  | string (text : Text)
  /-- A number literal, as it is spelled. -/
  | number (text : Text)
  /-- A reference to a variable. -/
  | symbol (name : Text)
  /-- A call of a function. -/
  | call (name : Text) (args : List Expr)
  /-- A conditional with one branch. -/
  | ifThen (test yes : Expr)
  /-- A conditional with two branches. -/
  | ifElse (test yes no : Expr)
  /-- Variables bound for a body. -/
  | bind (bindings : List (Text × Expr)) (body : List Expr)
  /-- Expressions one after another. -/
  | sequence (body : List Expr)
  /-- A vector. -/
  | vector (items : List Expr)
  /-- The declaration of a function with its body. -/
  | define (name : Text) (params : List Text) (body : List Expr)
  /-- The declaration of a function that is implemented elsewhere, with its Swift text if known. -/
  | external (name : Text) (params : List Text) (native : Option Text)
  /-- No expression where one should be. -/
  | missing
  /-- An expression of a foreign kind, which shows itself as `inner`. -/
  | foreign (inner : Expr)
  deriving Repr, Inhabited

/-- The body of a declared function. -/
inductive Body where
  /-- Resolved expressions. -/
  | forms (body : List Expr)
  /-- An implementation elsewhere, with its Swift text if known. -/
  | external (native : Option Text)
  deriving Repr, Inhabited

/-- A function that a program can call. -/
structure Declaration where
  /-- The Swift identifier or operator that calls it. -/
  target : Text
  /-- Its parameters, as Swift identifiers. -/
  params : List Text
  /-- Its body. -/
  body : Body
  deriving Repr, Inhabited

namespace Declaration

/-- The number of arguments that a call must give. -/
def arity (d : Declaration) : Nat :=
  d.params.length

/-- Whether a function is implemented elsewhere. -/
def isExternal (d : Declaration) : Bool :=
  match d.body with
  | .external _ => true
  | .forms _ => false

/-- A declaration as an expression. -/
def toExpr (d : Declaration) : Expr :=
  match d.body with
  | .forms body => .define d.target d.params body
  | .external native => .external d.target d.params native

end Declaration

/-- The function that an expression declares, if it is a declaration. -/
def Expr.declaration? : Expr → Option Declaration
  | .define name params body => some ⟨name, params, .forms body⟩
  | .external name params native => some ⟨name, params, .external native⟩
  | _ => none

/-- A declaration is recovered from its expression. -/
@[simp] theorem Declaration.declaration?_toExpr (d : Declaration) :
    d.toExpr.declaration? = some d := by
  obtain ⟨target, params, body⟩ := d
  cases body <;> rfl

end SwiftForms
