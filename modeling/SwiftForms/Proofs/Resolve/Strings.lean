import SwiftForms.Proofs.Form.Positions
import SwiftForms.Proofs.Resolve.Derivation

/-!
# The strings of resolved programs

The string literals of forms, and those of expressions, in the order in which they stand. Main
statement: resolving keeps every string literal of the source, once and in its place. The names of
functions, parameters and variables are no strings, so none is lost with them.
-/

namespace SwiftForms

namespace Form

/-- The text of a string literal. -/
def string? : Form → Option Text
  | .leaf .string text _ => some text
  | _ => none

/-- The string literals of forms, at any depth, in the order of the source. -/
def strings (forms : List Form) : List Text :=
  (preorderAll forms).filterMap string?

/-- The strings of the first form stand in front of those of the others. -/
theorem strings_cons (f : Form) (rest : List Form) :
    strings (f :: rest) = strings [f] ++ strings rest := by
  simp only [strings, preorderAll, List.append_nil, List.filterMap_append]

/-- A list or a vector has the strings of the forms inside it. -/
theorem strings_group (bracket : Bracket) (children : List Form) (pos : Position) :
    strings [.group bracket children pos] = strings children := by
  simp only [strings, preorderAll, preorder, List.append_nil]
  rfl

/-- A name has no strings. -/
theorem strings_atom_cons (name : Text) (pos : Position) (rest : List Form) :
    strings (.leaf .atom name pos :: rest) = strings rest :=
  rfl

/-- A form that is a name has no strings. -/
theorem strings_of_atom {f : Form} (h : f.kind = .leaf .atom) : strings [f] = [] := by
  cases f with
  | leaf kind text pos =>
    cases h
    rfl
  | group bracket children pos => cases h

/-- Names have no strings. -/
theorem strings_of_atoms {forms : List Form} (h : ∀ f ∈ forms, f.kind = .leaf .atom) :
    strings forms = [] := by
  induction forms with
  | nil => rfl
  | cons f rest ih =>
    obtain ⟨hf, hrest⟩ := List.forall_mem_cons.mp h
    rw [strings_cons, strings_of_atom hf, ih hrest, List.append_nil]

end Form

mutual

/-- The string literals of an expression, in order. -/
def Expr.strings : Expr → List Text
  | .string text => [text]
  | .call _ args => stringsAll args
  | .ifThen test yes => test.strings ++ yes.strings
  | .ifElse test yes no => test.strings ++ yes.strings ++ no.strings
  | .bind bound body => boundStrings bound ++ stringsAll body
  | .sequence body => stringsAll body
  | .vector items => stringsAll items
  | .define _ _ body => stringsAll body
  | .foreign inner => inner.strings
  | _ => []

/-- The string literals of expressions one after another. -/
def stringsAll : List Expr → List Text
  | [] => []
  | e :: rest => e.strings ++ stringsAll rest

/-- The string literals of bound values. -/
def boundStrings : List (Text × Expr) → List Text
  | [] => []
  | (_, e) :: rest => e.strings ++ boundStrings rest

end

/-- The strings of a single expression. -/
theorem stringsAll_singleton (e : Expr) : stringsAll [e] = e.strings := by
  rw [stringsAll, stringsAll, List.append_nil]

open Form

mutual

/-- A form has the strings of what it resolves to. -/
theorem Resolves.strings {scope : Scope} : ∀ {f : Form} {e : Expr}, Resolves scope f e →
    Form.strings [f] = e.strings
  | _, _, .string => rfl
  | _, _, .number => rfl
  | _, _, .symbol _ => rfl
  | _, _, .vector values => by
    rw [strings_group, values.strings]
    rfl
  | _, _, .call _ _ _ values => by
    rw [strings_group, strings_atom_cons, values.strings]
    rfl
  | _, _, .define _ _ spells inside => by
    rw [strings_group, strings_atom_cons, strings_atom_cons, strings_cons, strings_group,
      strings_of_atoms spells.atoms, inside.strings]
    rfl
  | _, _, .ifThen _ _ tested yesBranch => by
    rw [strings_group, strings_atom_cons, strings_cons, tested.strings, yesBranch.strings]
    rfl
  | _, _, .ifElse _ _ tested yesBranch noBranch => by
    rw [strings_group, strings_atom_cons, strings_cons, tested.strings, strings_cons,
      yesBranch.strings, noBranch.strings, ← List.append_assoc]
    rfl
  | _, _, .bind _ spells values inside => by
    rw [strings_group, strings_atom_cons, strings_cons, strings_group, values.strings spells.atoms,
      inside.strings]
    rfl
  | _, _, .sequence _ inside => by
    rw [strings_group, strings_atom_cons, inside.strings]
    rfl

/-- Forms have the strings of the values that they resolve to. -/
theorem ResolvesValues.strings {scope : Scope} : ∀ {forms : List Form} {exprs : List Expr},
    ResolvesValues scope forms exprs → Form.strings forms = stringsAll exprs
  | _, _, .nil => rfl
  | _, _, .cons _ first later => by
    rw [strings_cons, first.strings, later.strings]
    rfl

/-- Pairs of names and forms have the strings of the values that the names are bound to. -/
theorem ResolvesBindings.strings {scope : Scope} :
    ∀ {pairs : List Form} {bound : List (Text × Expr)},
      (∀ f ∈ Resolve.pairHeads pairs, f.kind = .leaf .atom) → ResolvesBindings scope pairs bound →
        Form.strings pairs = boundStrings bound
  | _, _, _, .nil => rfl
  | _, _, hatoms, .cons _ first later => by
    obtain ⟨hname, hothers⟩ := List.forall_mem_cons.mp hatoms
    rw [strings_cons, strings_of_atom hname, List.nil_append, strings_cons, first.strings,
      later.strings hothers]
    rfl

/-- Forms have the strings of the statements that they resolve to. -/
theorem ResolvesStatements.strings {scope : Scope} : ∀ {forms : List Form} {exprs : List Expr},
    ResolvesStatements scope forms exprs → Form.strings forms = stringsAll exprs
  | _, _, .nil => rfl
  | _, _, .cons first later => by
    rw [strings_cons, first.strings, later.strings]
    rfl

/-- Forms have the strings of the sequence that they resolve to. -/
theorem ResolvesSequence.strings {scope final : Scope} : ∀ {forms : List Form} {exprs : List Expr},
    ResolvesSequence scope forms exprs final → Form.strings forms = stringsAll exprs
  | _, _, .nil => rfl
  | _, _, .cons first later => by
    rw [strings_cons, first.strings, later.strings]
    rfl

end

end SwiftForms
