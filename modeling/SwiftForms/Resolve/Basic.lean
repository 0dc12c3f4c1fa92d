import SwiftForms.Resolve.Error
import SwiftForms.Scope
import SwiftForms.Swift.Identifier

/-!
# Resolving forms

The expressions that forms stand for under a scope. Every name is looked up, every call is checked
for its number of arguments, and names become Swift identifiers. Forms in a sequence see the
functions that the forms before them declare. A special form is written in Swift as statements, so it
is refused where a value is needed.
-/

namespace SwiftForms

/-- The forms with a meaning of their own. -/
inductive SpecialForm where
  /-- `(defn name [params...] body...)` -/
  | define
  /-- `(if test yes no)`, with `no` left out or not. -/
  | conditional
  /-- `(let [name value ...] body...)` -/
  | bind
  /-- `(do forms...)` -/
  | sequence
  deriving DecidableEq, Repr

namespace SpecialForm

/-- The name at the head of a special form. -/
def name : SpecialForm → Text
  | .define => "defn"
  | .conditional => "if"
  | .bind => "let"
  | .sequence => "do"

/-- The special form with a name at its head. -/
def ofName? (name : Text) : Option SpecialForm :=
  [define, conditional, bind, sequence].find? fun special => special.name = name

end SpecialForm

/-- Whether a form is a special form. -/
def Form.isSpecial : Form → Bool
  | .group .round (.leaf .atom head _ :: _) _ => (SpecialForm.ofName? head).isSome
  | _ => false

namespace Resolve

/-- An error that lies in forms. -/
def faultIn (fault : ResolveFault) (forms : List Form) (pos : Position) : ResolveError :=
  ⟨fault, [], forms, 0, pos⟩

/-- An error that lies in a name. -/
def faultOf (fault : ResolveFault) (name : Text) (pos : Position) : ResolveError :=
  ⟨fault, name, [], 0, pos⟩

/-- A special form is no value. -/
def requireValue (form : Form) : Except ResolveError Unit :=
  if form.isSpecial then .error (faultIn .invalidExpression form.children form.pos) else .ok ()

/-- A name may be declared unless it heads a special form, is declared already, would get the
identifier of a declared function, or would get a reserved identifier. -/
def requireNew (scope : Scope) (name : Text) (pos : Position) : Except ResolveError Unit :=
  if (SpecialForm.ofName? name).isSome then .error (faultOf .reservedName name pos)
  else if (scope.function? name).isSome || scope.hasTarget (Identifier.ofName name) then
    .error (faultOf .alreadyExists name pos)
  else if scope.isReserved (Identifier.ofName name) then .error (faultOf .reservedName name pos)
  else .ok ()

/-- The names in a list of forms, which must be words with different identifiers. `seen` holds the
identifiers before them and `owner` the forms that an error lies in. -/
def distinctNames (fault : ResolveFault) (owner : List Form) (seen : List Text) :
    List Form → Except ResolveError (List Text)
  | [] => .ok []
  | .leaf .atom name pos :: rest =>
    if seen.contains (Identifier.ofName name) then .error (faultIn fault owner pos)
    else do
      let names ← distinctNames fault owner (Identifier.ofName name :: seen) rest
      return name :: names
  | form :: _ => .error (faultIn fault owner form.pos)

/-- The first form of every pair. -/
def pairHeads : List Form → List Form
  | name :: _ :: rest => name :: pairHeads rest
  | _ => []

/-- A scope after a form that stands for an expression: a declaration is visible from then on. -/
def scopeAfter (scope : Scope) : Form → Expr → Scope
  | .group .round (_ :: .leaf .atom name _ :: _) _, .define target params body =>
    scope.withFunction name ⟨target, params, .forms body⟩
  | _, _ => scope

mutual

/-- The expression that a form stands for. -/
def form (scope : Scope) : Form → Except ResolveError Expr
  | .leaf .string text _ => .ok (.string text)
  | .leaf .number text _ => .ok (.number text)
  | .leaf .atom name pos =>
    if scope.hasSymbol name then .ok (.symbol (Identifier.ofName name))
    else .error (faultOf .unknownSymbol name pos)
  | .leaf .illegal text pos =>
    .error (faultIn .invalidExpression [.leaf .illegal text pos] pos)
  | .group .square items _ => do
    let exprs ← values scope items
    return .vector exprs
  | .group .round [] pos => .error (faultIn .invalidExpression [] pos)
  | .group .round (head :: rest) pos =>
    match head with
    | .leaf .atom name _ =>
      match SpecialForm.ofName? name with
      | some .define => definition scope (head :: rest) pos rest
      | some .conditional => conditional scope (head :: rest) pos rest
      | some .bind => binding scope (head :: rest) pos rest
      | some .sequence => do
        let exprs ← statements scope rest
        return .sequence exprs
      | none =>
        match scope.function? name with
        | none => .error (faultOf .undeclared name pos)
        | some d =>
          if rest.length = d.arity then do
            let exprs ← values scope rest
            return .call d.target exprs
          else .error ⟨.incorrectArguments, name, rest, d.arity, pos⟩
    | _ => .error (faultIn .invalidExpression (head :: rest) pos)

/-- The declaration after the head of a form `whole`. Inside its body the function itself is visible,
so that it can call itself. -/
def definition (scope : Scope) (whole : List Form) (pos : Position) :
    List Form → Except ResolveError Expr
  | .leaf .atom name namePos :: .group .square params _ :: body => do
    requireNew scope name namePos
    let names ← distinctNames .invalidDeclaration whole [] params
    let target := Identifier.ofName name
    let identifiers := names.map Identifier.ofName
    let inner := (scope.withSymbols names).withFunction name ⟨target, identifiers, .external (some [])⟩
    let (exprs, _) ← sequence inner body
    return .define target identifiers exprs
  | .leaf .atom name namePos :: _ => do
    requireNew scope name namePos
    .error (faultIn .invalidDeclaration whole pos)
  | _ => .error (faultIn .invalidDeclaration whole pos)

/-- The conditional after the head of a form `whole`. -/
def conditional (scope : Scope) (whole : List Form) (pos : Position) :
    List Form → Except ResolveError Expr
  | [test, yes] => do
    requireValue test
    let testExpr ← form scope test
    let yesExpr ← form scope yes
    return .ifThen testExpr yesExpr
  | [test, yes, no] => do
    requireValue test
    let testExpr ← form scope test
    let yesExpr ← form scope yes
    let noExpr ← form scope no
    return .ifElse testExpr yesExpr noExpr
  | _ => .error (faultIn .invalidExpression whole pos)

/-- The binding after the head of a form `whole`. The bound names are visible in all values and in
the body. -/
def binding (scope : Scope) (whole : List Form) (pos : Position) :
    List Form → Except ResolveError Expr
  | .group .square pairs _ :: first :: body =>
    if pairs.length % 2 = 0 then do
      let names ← distinctNames .invalidExpression whole [] (pairHeads pairs)
      let inner := scope.withSymbols names
      let bound ← bindings inner pairs
      let (exprs, _) ← sequence inner (first :: body)
      return .bind bound exprs
    else .error (faultIn .invalidExpression whole pos)
  | _ => .error (faultIn .invalidExpression whole pos)

/-- The values of name and value pairs. -/
def bindings (scope : Scope) : List Form → Except ResolveError (List (Text × Expr))
  | name :: value :: rest => do
    requireValue value
    let expr ← form scope value
    let others ← bindings scope rest
    return (Identifier.ofName name.text, expr) :: others
  | _ => .ok []

/-- Forms that are all needed as values. -/
def values (scope : Scope) : List Form → Except ResolveError (List Expr)
  | [] => .ok []
  | value :: rest => do
    requireValue value
    let expr ← form scope value
    let others ← values scope rest
    return expr :: others

/-- Forms under one scope, none of which sees the declarations of another. -/
def statements (scope : Scope) : List Form → Except ResolveError (List Expr)
  | [] => .ok []
  | statement :: rest => do
    let expr ← form scope statement
    let others ← statements scope rest
    return expr :: others

/-- Forms of which each sees the declarations of those before it, and the scope after them. -/
def sequence (scope : Scope) : List Form → Except ResolveError (List Expr × Scope)
  | [] => .ok ([], scope)
  | statement :: rest => do
    let expr ← form scope statement
    let (others, final) ← sequence (scopeAfter scope statement expr) rest
    return (expr :: others, final)

end

end Resolve

/-- The expressions that a program stands for under a scope, and the scope after it. -/
def resolve (scope : Scope) (forms : List Form) : Except ResolveError (List Expr × Scope) :=
  Resolve.sequence scope forms

end SwiftForms
