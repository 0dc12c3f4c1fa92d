import SwiftForms.Proofs.Scope.Sound
import SwiftForms.Swift.Render

/-!
# Where values and statements stand in resolved programs

A value is a literal, a variable, a vector or a call; a statement is a value, a declaration, a
conditional, a binding or a sequence. In a resolved program a value stands wherever Swift needs an
expression, and every call that is written as a comparison has two arguments.
-/

namespace SwiftForms

namespace Expr

/-- The expressions that an expression is made of. -/
def parts : Expr → List Expr
  | .call _ args => args
  | .ifThen test yes => [test, yes]
  | .ifElse test yes no => [test, yes, no]
  | .bind bound body => bound.map Prod.snd ++ body
  | .sequence body => body
  | .vector items => items
  | .define _ _ body => body
  | .foreign inner => [inner]
  | _ => []

/-- An expression occurs in another: it is that one, or it occurs in a part of it. -/
inductive Occurs (e : Expr) : Expr → Prop
  /-- An expression occurs in itself. -/
  | here : Occurs e e
  /-- What occurs in a part occurs in the whole. -/
  | inside {whole part : Expr} (hpart : part ∈ whole.parts) (h : Occurs e part) : Occurs e whole

/-- What occurs in a part of an expression occurs in the expression. -/
theorem Occurs.trans {e part whole : Expr} (h : Occurs e part) (hpart : Occurs part whole) :
    Occurs e whole := by
  induction hpart with
  | here => exact h
  | inside hmem _ ih => exact .inside hmem ih

/-- A vector occurs in an expression. -/
def HasVector (e : Expr) : Prop :=
  ∃ items, Occurs (.vector items) e

/-- Vectors occur in vectors and in what has a part in which one occurs. -/
theorem hasVector_iff {e : Expr} :
    e.HasVector ↔ (∃ items, e = .vector items) ∨ ∃ part ∈ e.parts, part.HasVector := by
  constructor
  · rintro ⟨items, h⟩
    cases h with
    | here => exact .inl ⟨items, rfl⟩
    | inside hpart h => exact .inr ⟨_, hpart, items, h⟩
  · rintro (⟨items, rfl⟩ | ⟨part, hpart, items, h⟩)
    · exact ⟨items, .here⟩
    · exact ⟨items, .inside hpart h⟩

/-- A vector is one that occurs. -/
theorem hasVector_vector (items : List Expr) : (vector items).HasVector :=
  ⟨items, .here⟩

/-- In an expression that is no vector, vectors occur only in the parts. -/
theorem hasVector_iff_parts {e : Expr} (h : ∀ items, e ≠ .vector items) :
    e.HasVector ↔ ∃ part ∈ e.parts, part.HasVector := by
  rw [hasVector_iff]
  constructor
  · rintro (⟨items, heq⟩ | hparts)
    · exact absurd heq (h items)
    · exact hparts
  · exact .inr

/-- In an expression without parts that is no vector, no vector occurs. -/
theorem not_hasVector_of_leaf {e : Expr} (h : ∀ items, e ≠ .vector items) (hparts : e.parts = []) :
    ¬ e.HasVector := by
  rw [hasVector_iff_parts h, hparts]
  rintro ⟨part, hpart, _⟩
  cases hpart

/-- What Swift can take as an expression, if it holds no vector. -/
inductive IsValue (lib : Library) : Expr → Prop
  /-- A string. -/
  | string {text} : IsValue lib (.string text)
  /-- A number. -/
  | number {text} : IsValue lib (.number text)
  /-- A variable. -/
  | symbol {name} : IsValue lib (.symbol name)
  /-- A call, with two arguments if it is written as a comparison. -/
  | call {name args}
    (comparison : (lib.targeted? name).map Builtin.style = some .comparison → args.length = 2)
    (each : ∀ arg ∈ args, IsValue lib arg) : IsValue lib (.call name args)
  /-- A vector. -/
  | vector {items} (each : ∀ item ∈ items, IsValue lib item) : IsValue lib (.vector items)

/-- What Swift can take as statements, if it holds no vector. -/
inductive IsStatement (lib : Library) : Expr → Prop
  /-- A value. -/
  | value {e} (h : e.IsValue lib) : IsStatement lib e
  /-- A declaration. -/
  | define {name params body} (each : ∀ e ∈ body, IsStatement lib e) :
    IsStatement lib (.define name params body)
  /-- A conditional with one branch. -/
  | ifThen {test yes} (tested : test.IsValue lib) (yesBranch : IsStatement lib yes) :
    IsStatement lib (.ifThen test yes)
  /-- A conditional with two branches. -/
  | ifElse {test yes no} (tested : test.IsValue lib) (yesBranch : IsStatement lib yes)
    (noBranch : IsStatement lib no) : IsStatement lib (.ifElse test yes no)
  /-- A binding. -/
  | bind {bound body} (values : ∀ b ∈ bound, b.2.IsValue lib)
    (each : ∀ e ∈ body, IsStatement lib e) : IsStatement lib (.bind bound body)
  /-- A sequence. -/
  | sequence {body} (each : ∀ e ∈ body, IsStatement lib e) : IsStatement lib (.sequence body)

end Expr

/-- A function that is called by the operator of a comparison has two parameters. -/
theorem Scope.Sound.arity_of_comparison {lib : Library} {scope : Scope} (hs : scope.Sound lib)
    {name : Text} {d : Declaration} (hd : scope.function? name = some d)
    (hstyle : (lib.targeted? d.target).map Builtin.style = some .comparison) : d.arity = 2 := by
  obtain ⟨b, hb, hcomparison⟩ := Option.map_eq_some_iff.mp hstyle
  obtain ⟨hmem, htarget⟩ := Library.targeted?_eq_some_iff.mp hb
  rw [hs.eq_declaration hd hmem htarget]
  refine Library.params_of_style hmem ?_
  rw [hcomparison]
  decide

/-- A resolved call that is written as a comparison has two arguments. -/
theorem ResolvesValues.length_of_comparison {lib : Library} {scope : Scope} (hs : scope.Sound lib)
    {name : Text} {d : Declaration} (hd : scope.function? name = some d) {args : List Form}
    {exprs : List Expr} (harity : args.length = d.arity) (h : ResolvesValues scope args exprs)
    (hstyle : (lib.targeted? d.target).map Builtin.style = some .comparison) :
    exprs.length = 2 := by
  rw [h.length_eq, harity]
  exact hs.arity_of_comparison hd hstyle

mutual

/-- What is resolved from a form that is no special form is a value. -/
theorem Resolves.isValue {lib : Library} {scope : Scope} (hs : scope.Sound lib) :
    ∀ {f : Form} {e : Expr}, f.isSpecial = false → Resolves scope f e → e.IsValue lib
  | _, _, _, .string => .string
  | _, _, _, .number => .number
  | _, _, _, .symbol _ => .symbol
  | _, _, _, .vector values => .vector (values.isValue hs)
  | _, _, _, .call _ declared arity values =>
    .call (values.length_of_comparison hs declared arity) (values.isValue hs)
  | _, _, hvalue, .define special _ _ _ => by simp [Form.isSpecial, special] at hvalue
  | _, _, hvalue, .ifThen special _ _ _ => by simp [Form.isSpecial, special] at hvalue
  | _, _, hvalue, .ifElse special _ _ _ _ => by simp [Form.isSpecial, special] at hvalue
  | _, _, hvalue, .bind special _ _ _ => by simp [Form.isSpecial, special] at hvalue
  | _, _, hvalue, .sequence special _ => by simp [Form.isSpecial, special] at hvalue

/-- Resolved values are values. -/
theorem ResolvesValues.isValue {lib : Library} {scope : Scope} (hs : scope.Sound lib) :
    ∀ {forms : List Form} {exprs : List Expr}, ResolvesValues scope forms exprs →
      ∀ e ∈ exprs, e.IsValue lib
  | _, _, .nil => by simp
  | _, _, .cons value first later =>
    List.forall_mem_cons.mpr ⟨first.isValue hs value, later.isValue hs⟩

/-- The values of a resolved binding are values. -/
theorem ResolvesBindings.isValue {lib : Library} {scope : Scope} (hs : scope.Sound lib) :
    ∀ {pairs : List Form} {bound : List (Text × Expr)}, ResolvesBindings scope pairs bound →
      ∀ b ∈ bound, b.2.IsValue lib
  | _, _, .nil => by simp
  | _, _, .cons value first later =>
    List.forall_mem_cons.mpr ⟨first.isValue hs value, later.isValue hs⟩

end

mutual

/-- What is resolved from a form is a statement. -/
theorem Resolves.isStatement {lib : Library} {scope : Scope} (hs : scope.Sound lib) :
    ∀ {f : Form} {e : Expr}, Resolves scope f e → e.IsStatement lib
  | _, _, .string => .value .string
  | _, _, .number => .value .number
  | _, _, .symbol _ => .value .symbol
  | _, _, .vector values => .value (.vector (values.isValue hs))
  | _, _, .call _ declared arity values =>
    .value (.call (values.length_of_comparison hs declared arity) (values.isValue hs))
  | _, _, .define _ admits _ inside => .define (inside.isStatement (hs.insideFunction admits _))
  | _, _, .ifThen _ value tested yesBranch =>
    .ifThen (tested.isValue hs value) (yesBranch.isStatement hs)
  | _, _, .ifElse _ value tested yesBranch noBranch =>
    .ifElse (tested.isValue hs value) (yesBranch.isStatement hs) (noBranch.isStatement hs)
  | _, _, .bind _ _ values inside =>
    .bind (values.isValue (hs.withSymbols _)) (inside.isStatement (hs.withSymbols _))
  | _, _, .sequence _ inside => .sequence (inside.isStatement hs)

/-- Statements that do not see each other's declarations are statements. -/
theorem ResolvesStatements.isStatement {lib : Library} {scope : Scope} (hs : scope.Sound lib) :
    ∀ {forms : List Form} {exprs : List Expr}, ResolvesStatements scope forms exprs →
      ∀ e ∈ exprs, e.IsStatement lib
  | _, _, .nil => by simp
  | _, _, .cons first later =>
    List.forall_mem_cons.mpr ⟨first.isStatement hs, later.isStatement hs⟩

/-- Every expression of a resolved sequence is a statement. -/
theorem ResolvesSequence.isStatement {lib : Library} {scope : Scope} (hs : scope.Sound lib) :
    ∀ {forms : List Form} {exprs : List Expr} {final : Scope},
      ResolvesSequence scope forms exprs final → ∀ e ∈ exprs, e.IsStatement lib
  | _, _, _, .nil => by simp
  | _, _, _, .cons first later =>
    List.forall_mem_cons.mpr
      ⟨first.isStatement hs, later.isStatement (hs.scopeAfter first)⟩

end

end SwiftForms
