import SwiftForms.Proofs.Fallible
import SwiftForms.Proofs.Form.Relocation
import SwiftForms.Resolve.Basic

/-!
# Resolving forms at other places

Positions have no part in what forms stand for. Forms with moved positions resolve to the very same
expressions and the same scope, or fail for the same cause with the positions of the error moved.
-/

namespace SwiftForms

open Fallible

/-- A resolving error with each of its positions moved. -/
def ResolveError.relocate (move : Position → Position) (e : ResolveError) : ResolveError :=
  { e with forms := relocateForms move e.forms, pos := move e.pos }

/-- Moving a form moves its place. -/
@[simp] theorem Form.pos_relocate (move : Position → Position) (f : Form) :
    (f.relocate move).pos = move f.pos := by
  cases f <;> rfl

/-- Moving a form keeps its spelling. -/
@[simp] theorem Form.text_relocate (move : Position → Position) (f : Form) :
    (f.relocate move).text = f.text := by
  cases f <;> rfl

/-- Moving a form moves what stands inside. -/
@[simp] theorem Form.children_relocate (move : Position → Position) (f : Form) :
    (f.relocate move).children = relocateForms move f.children := by
  cases f <;> rfl

/-- Moving a form keeps whether it is a special form. -/
@[simp] theorem Form.isSpecial_relocate (move : Position → Position) (f : Form) :
    (f.relocate move).isSpecial = f.isSpecial := by
  cases f with
  | leaf kind text pos => rfl
  | group bracket children pos =>
    cases children with
    | nil => cases bracket <;> rfl
    | cons head rest =>
      cases head with
      | group inner items place => cases bracket <;> rfl
      | leaf kind text place => cases bracket <;> cases kind <;> rfl

namespace Resolve

/-- Whether a form is refused as a value does not depend on its place. -/
theorem requireValue_relocate (move : Position → Position) (f : Form) :
    requireValue (f.relocate move) = (requireValue f).mapError (ResolveError.relocate move) := by
  rw [requireValue, requireValue, Form.isSpecial_relocate]
  split
  · rw [Form.children_relocate, Form.pos_relocate]
    rfl
  · rfl

/-- Whether a name may be declared does not depend on its place. -/
theorem requireNew_relocate (move : Position → Position) (scope : Scope) (name : Text)
    (pos : Position) :
    requireNew scope name (move pos) =
      (requireNew scope name pos).mapError (ResolveError.relocate move) := by
  unfold requireNew
  split
  · rfl
  · split
    · rfl
    · split <;> rfl

/-- The names in a list of forms do not depend on their places. -/
theorem distinctNames_relocate (move : Position → Position) (fault : ResolveFault)
    (owner : List Form) (seen : List Text) (forms : List Form) :
    distinctNames fault (relocateForms move owner) seen (relocateForms move forms) =
      (distinctNames fault owner seen forms).mapError (ResolveError.relocate move) := by
  induction forms generalizing seen with
  | nil => rfl
  | cons f rest ih =>
    cases f with
    | group bracket children pos => rfl
    | leaf kind name pos =>
      cases kind with
      | string => rfl
      | number => rfl
      | illegal => rfl
      | atom =>
        simp only [relocateForms, Form.relocate, distinctNames]
        split
        · rfl
        · rw [ih, mapError_bind]
          rfl

/-- The first forms of moved pairs are the moved first forms. -/
theorem pairHeads_relocate (move : Position → Position) :
    ∀ pairs : List Form,
      pairHeads (relocateForms move pairs) = relocateForms move (pairHeads pairs)
  | [] => rfl
  | [_] => rfl
  | _ :: _ :: rest => congrArg (_ :: ·) (pairHeads_relocate move rest)

/-- What a form declares does not depend on its place. -/
theorem scopeAfter_relocate (move : Position → Position) (scope : Scope) (f : Form) (e : Expr) :
    scopeAfter scope (f.relocate move) e = scopeAfter scope f e := by
  cases f with
  | leaf kind text pos => rfl
  | group bracket children pos =>
    match bracket, children with
    | .square, _ => rfl
    | .round, [] => rfl
    | .round, [_] => rfl
    | .round, _ :: .group _ _ _ :: _ => rfl
    | .round, _ :: .leaf kind _ _ :: _ => cases kind <;> cases e <;> rfl

mutual

/-- A form stands for the same expression wherever it is, or has the same fault. -/
theorem form_relocate (move : Position → Position) (scope : Scope) :
    ∀ f : Form,
      form scope (f.relocate move) = (form scope f).mapError (ResolveError.relocate move)
  | .leaf .string _ _ => rfl
  | .leaf .number _ _ => rfl
  | .leaf .illegal _ _ => rfl
  | .leaf .atom name pos => by
    simp only [Form.relocate, form]
    split <;> rfl
  | .group .square items pos => by
    simp only [Form.relocate, form]
    rw [values_relocate move scope items, mapError_bind]
    rfl
  | .group .round [] _ => rfl
  | .group .round (.group _ _ _ :: _) _ => rfl
  | .group .round (.leaf .string _ _ :: _) _ => rfl
  | .group .round (.leaf .number _ _ :: _) _ => rfl
  | .group .round (.leaf .illegal _ _ :: _) _ => rfl
  | .group .round (.leaf .atom name place :: rest) pos => by
    simp only [Form.relocate, relocateForms, form, length_relocateForms]
    cases SpecialForm.ofName? name with
    | some special =>
      cases special with
      | define => exact definition_relocate move scope (.leaf .atom name place :: rest) pos rest
      | conditional => exact conditional_relocate move scope (.leaf .atom name place :: rest) pos rest
      | bind => exact binding_relocate move scope (.leaf .atom name place :: rest) pos rest
      | sequence =>
        dsimp only
        rw [statements_relocate move scope rest, mapError_bind]
        rfl
    | none =>
      dsimp only
      cases scope.function? name with
      | none => rfl
      | some d =>
        dsimp only
        split
        · rw [values_relocate move scope rest, mapError_bind]
          rfl
        · rfl

/-- A declaration is the same wherever it is. -/
theorem definition_relocate (move : Position → Position) (scope : Scope) (whole : List Form)
    (pos : Position) :
    ∀ forms : List Form,
      definition scope (relocateForms move whole) (move pos) (relocateForms move forms) =
        (definition scope whole pos forms).mapError (ResolveError.relocate move)
  | [] => rfl
  | .group _ _ _ :: _ => rfl
  | .leaf .string _ _ :: _ => rfl
  | .leaf .number _ _ :: _ => rfl
  | .leaf .illegal _ _ :: _ => rfl
  | [.leaf .atom name namePos] => by
    simp only [relocateForms, Form.relocate, definition]
    rw [requireNew_relocate, mapError_bind]
    rfl
  | .leaf .atom name namePos :: .leaf _ _ _ :: _ => by
    simp only [relocateForms, Form.relocate, definition]
    rw [requireNew_relocate, mapError_bind]
    rfl
  | .leaf .atom name namePos :: .group .round _ _ :: _ => by
    simp only [relocateForms, Form.relocate, definition]
    rw [requireNew_relocate, mapError_bind]
    rfl
  | .leaf .atom name namePos :: .group .square params place :: body => by
    simp only [relocateForms, Form.relocate, definition]
    rw [requireNew_relocate, distinctNames_relocate]
    cases requireNew scope name namePos with
    | error e => rfl
    | ok _ =>
      cases distinctNames .invalidDeclaration whole [] params with
      | error e => rfl
      | ok names =>
        have ih := sequence_relocate move ((scope.withSymbols names).withFunction name
          ⟨Identifier.ofName name, names.map Identifier.ofName, .external (some [])⟩) body
        simp only [mapError_ok]
        dsimp only [bind, Except.bind]
        rw [ih]
        cases sequence ((scope.withSymbols names).withFunction name
          ⟨Identifier.ofName name, names.map Identifier.ofName, .external (some [])⟩) body <;> rfl

/-- A conditional is the same wherever it is. -/
theorem conditional_relocate (move : Position → Position) (scope : Scope) (whole : List Form)
    (pos : Position) :
    ∀ forms : List Form,
      conditional scope (relocateForms move whole) (move pos) (relocateForms move forms) =
        (conditional scope whole pos forms).mapError (ResolveError.relocate move)
  | [] => rfl
  | [_] => rfl
  | [test, yes] => by
    simp only [relocateForms, conditional, mapError_bind, requireValue_relocate,
      form_relocate move scope test, form_relocate move scope yes]
    rfl
  | [test, yes, no] => by
    simp only [relocateForms, conditional, mapError_bind, requireValue_relocate,
      form_relocate move scope test, form_relocate move scope yes, form_relocate move scope no]
    rfl
  | _ :: _ :: _ :: _ :: _ => rfl

/-- A binding is the same wherever it is. -/
theorem binding_relocate (move : Position → Position) (scope : Scope) (whole : List Form)
    (pos : Position) :
    ∀ forms : List Form,
      binding scope (relocateForms move whole) (move pos) (relocateForms move forms) =
        (binding scope whole pos forms).mapError (ResolveError.relocate move)
  | [] => rfl
  | .leaf _ _ _ :: _ => rfl
  | .group .round _ _ :: _ => rfl
  | [.group .square _ _] => rfl
  | .group .square pairs place :: first :: body => by
    simp only [relocateForms, Form.relocate, binding, length_relocateForms]
    split
    · rw [pairHeads_relocate, distinctNames_relocate]
      cases distinctNames .invalidExpression whole [] (pairHeads pairs) with
      | error e => rfl
      | ok names =>
        have ihpairs := bindings_relocate move (scope.withSymbols names) pairs
        have ihbody := sequence_relocate move (scope.withSymbols names) (first :: body)
        simp only [mapError_ok, mapError_bind]
        dsimp only [bind, Except.bind]
        rw [ihpairs]
        cases bindings (scope.withSymbols names) pairs with
        | error e => rfl
        | ok bound =>
          simp only [mapError_ok]
          rw [relocateForms] at ihbody
          rw [ihbody]
          cases sequence (scope.withSymbols names) (first :: body) <;> rfl
    · rfl

/-- Name and value pairs are the same wherever they are. -/
theorem bindings_relocate (move : Position → Position) (scope : Scope) :
    ∀ forms : List Form,
      bindings scope (relocateForms move forms) =
        (bindings scope forms).mapError (ResolveError.relocate move)
  | [] => rfl
  | [_] => rfl
  | name :: value :: rest => by
    simp only [relocateForms, bindings, mapError_bind, requireValue_relocate, Form.text_relocate,
      form_relocate move scope value, bindings_relocate move scope rest]
    rfl

/-- Values are the same wherever they are. -/
theorem values_relocate (move : Position → Position) (scope : Scope) :
    ∀ forms : List Form,
      values scope (relocateForms move forms) =
        (values scope forms).mapError (ResolveError.relocate move)
  | [] => rfl
  | value :: rest => by
    simp only [relocateForms, values, mapError_bind, requireValue_relocate,
      form_relocate move scope value, values_relocate move scope rest]
    rfl

/-- Statements are the same wherever they are. -/
theorem statements_relocate (move : Position → Position) (scope : Scope) :
    ∀ forms : List Form,
      statements scope (relocateForms move forms) =
        (statements scope forms).mapError (ResolveError.relocate move)
  | [] => rfl
  | statement :: rest => by
    simp only [relocateForms, statements, mapError_bind,
      form_relocate move scope statement, statements_relocate move scope rest]
    rfl

/-- Forms of which each sees the declarations before it are the same wherever they are. -/
theorem sequence_relocate (move : Position → Position) (scope : Scope) :
    ∀ forms : List Form,
      sequence scope (relocateForms move forms) =
        (sequence scope forms).mapError (ResolveError.relocate move)
  | [] => rfl
  | statement :: rest => by
    simp only [relocateForms, sequence, form_relocate move scope statement]
    cases form scope statement with
    | error e => rfl
    | ok expr =>
      have ih := sequence_relocate move (scopeAfter scope statement expr) rest
      simp only [mapError_ok]
      dsimp only [bind, Except.bind]
      rw [scopeAfter_relocate, ih]
      cases sequence (scopeAfter scope statement expr) rest <;> rfl

end

end Resolve

end SwiftForms
