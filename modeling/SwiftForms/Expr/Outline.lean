import SwiftForms.Expr.Basic

/-!
# Outlines

The outline of an expression spells its tree on one line, each node by its name and its parts. It is
what `-ast` prints and what messages about a tree show.
-/

namespace SwiftForms

/-- Texts with commas between them, in square brackets. -/
def bracketed (parts : List Text) : Text :=
  "[" ++ Text.join "," parts ++ "]"

mutual

/-- The outline of an expression. -/
def Expr.outline : Expr → Text
  | .string text => "String(" ++ text ++ ")"
  | .number text => "Number(" ++ text ++ ")"
  | .symbol name => "Symbol(" ++ name ++ ")"
  | .call name args => "FunctionCall\x7b" ++ name ++ "," ++ bracketed (outlines args) ++ "\x7d"
  | .ifThen test yes => "Conditional\x7b" ++ test.outline ++ "," ++ yes.outline ++ "\x7d"
  | .ifElse test yes no =>
    "Conditional\x7b" ++ test.outline ++ "," ++ yes.outline ++ "," ++ no.outline ++ "\x7d"
  | .bind bindings body =>
    "LetBinding\x7b" ++ bracketed (bindingOutlines bindings) ++ "," ++ bracketed (outlines body) ++ "\x7d"
  | .sequence body => "Sequence" ++ bracketed (outlines body)
  | .vector items => "VectorLiteral" ++ bracketed (outlines items)
  | .define name params body =>
    "FunctionDeclaration\x7b" ++ name ++ "," ++ bracketed params ++ ",Lisp" ++
      bracketed (outlines body) ++ "\x7d"
  | .external name params _ =>
    "FunctionDeclaration\x7b" ++ name ++ "," ++ bracketed params ++ ",Opaque\x7d"
  | .missing => "%!s(<nil>)"
  | .foreign inner => inner.outline

/-- The outlines of expressions. -/
def outlines : List Expr → List Text
  | [] => []
  | e :: rest => e.outline :: outlines rest

/-- The outlines of bindings. -/
def bindingOutlines : List (Text × Expr) → List Text
  | [] => []
  | (name, value) :: rest => (name ++ "=" ++ value.outline) :: bindingOutlines rest

end

mutual

/-- Whether no expression is missing anywhere in a tree. -/
def Expr.isComplete : Expr → Bool
  | .call _ args => areComplete args
  | .ifThen test yes => test.isComplete && yes.isComplete
  | .ifElse test yes no => test.isComplete && yes.isComplete && no.isComplete
  | .bind bindings body => bindingsComplete bindings && areComplete body
  | .sequence body => areComplete body
  | .vector items => areComplete items
  | .define _ _ body => areComplete body
  | .missing => false
  | .foreign inner => inner.isComplete
  | _ => true

/-- Whether no expression is missing in any of the trees. -/
def areComplete : List Expr → Bool
  | [] => true
  | e :: rest => e.isComplete && areComplete rest

/-- Whether no expression is missing in any of the bound values. -/
def bindingsComplete : List (Text × Expr) → Bool
  | [] => true
  | (_, value) :: rest => value.isComplete && bindingsComplete rest

end

/-- What messages show for an expression. A tree with a gap has no outline; its message says so in
the words of the formatter that fails on it. -/
def Expr.shown : Expr → Text
  | .missing => "%!s(<nil>)"
  | e =>
    if e.isComplete then e.outline
    else "%!s(PANIC=String method: runtime error: invalid memory address or nil pointer dereference)"

end SwiftForms
