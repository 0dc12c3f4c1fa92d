import SwiftForms.Proofs.Scope.Sound

/-!
# Resolved programs are closed

In a resolved program every variable is bound where it stands, and every call names exactly one visible
function and gives it as many arguments as it has parameters. Visible are the functions of the scope
that the program is resolved under, the functions inside whose declarations a call stands, and those
declared by an earlier form of a body that the call stands in. A declaration in a branch of a
conditional, in a sequence or in an inner body is not visible outside of it.
-/

namespace SwiftForms

/-- A function as its calls see it. -/
structure Signature where
  /-- The Swift identifier or operator that calls it. -/
  target : Text
  /-- Its parameters. -/
  params : List Text
  deriving DecidableEq, Repr

/-- What is visible at a point of a resolved program, by Swift identifiers. -/
structure Visible where
  /-- The variables that are bound. -/
  vars : List Text
  /-- The functions that can be called. -/
  functions : List Signature
  deriving DecidableEq, Repr

namespace Visible

/-- What is visible under a scope. -/
def ofScope (scope : Scope) : Visible where
  vars := scope.symbols.map Identifier.ofName
  functions := scope.functions.values.map fun d => ⟨d.target, d.params⟩

/-- More variables are bound. -/
def withVariables (v : Visible) (names : List Text) : Visible :=
  { v with vars := names ++ v.vars }

/-- One more function can be called. -/
def withFunction (v : Visible) (s : Signature) : Visible :=
  { v with functions := s :: v.functions }

/-- What is visible after an expression of a body. -/
def after (v : Visible) : Expr → Visible
  | .define name params _ => v.withFunction ⟨name, params⟩
  | _ => v

/-- What is visible inside the declaration of a function: its parameters and the function itself. -/
def inside (v : Visible) (s : Signature) : Visible :=
  (v.withVariables s.params).withFunction s

end Visible

mutual

/-- All that an expression names is visible, and every call has as many arguments as the function that
it names has parameters. -/
inductive Expr.Closed : Visible → Expr → Prop
  /-- A string names nothing. -/
  | string {v text} : Expr.Closed v (.string text)
  /-- A number names nothing. -/
  | number {v text} : Expr.Closed v (.number text)
  /-- A variable is bound. -/
  | symbol {v name} (bound : name ∈ v.vars) : Expr.Closed v (.symbol name)
  /-- A call names exactly one visible function and has the arguments that it needs. -/
  | call {v s args} (visible : s ∈ v.functions)
    (only : ∀ other ∈ v.functions, other.target = s.target → other = s)
    (arity : args.length = s.params.length) (each : ∀ arg ∈ args, Expr.Closed v arg) :
    Expr.Closed v (.call s.target args)
  /-- The items of a vector see what the vector sees. -/
  | vector {v items} (each : ∀ item ∈ items, Expr.Closed v item) : Expr.Closed v (.vector items)
  /-- The parts of a conditional see what the conditional sees. -/
  | ifThen {v test yes} (tested : Expr.Closed v test) (yesBranch : Expr.Closed v yes) :
    Expr.Closed v (.ifThen test yes)
  /-- The parts of a conditional see what the conditional sees. -/
  | ifElse {v test yes no} (tested : Expr.Closed v test) (yesBranch : Expr.Closed v yes)
    (noBranch : Expr.Closed v no) : Expr.Closed v (.ifElse test yes no)
  /-- The parts of a sequence see what the sequence sees, and nothing of each other. -/
  | sequence {v body} (each : ∀ e ∈ body, Expr.Closed v e) : Expr.Closed v (.sequence body)
  /-- The variables of a binding are bound in all of its values and in its body. -/
  | bind {v bound body}
    (values : ∀ b ∈ bound, Expr.Closed (v.withVariables (bound.map Prod.fst)) b.2)
    (inner : Expr.ClosedBody (v.withVariables (bound.map Prod.fst)) body) :
    Expr.Closed v (.bind bound body)
  /-- The body of a declaration sees the parameters and the function itself. -/
  | define {v name params body} (inner : Expr.ClosedBody (v.inside ⟨name, params⟩) body) :
    Expr.Closed v (.define name params body)

/-- The expressions of a body are closed, each where those before it have made their declarations. -/
inductive Expr.ClosedBody : Visible → List Expr → Prop
  /-- A body without expressions names nothing. -/
  | nil {v} : Expr.ClosedBody v []
  /-- What an expression declares is visible to those after it. -/
  | cons {v e rest} (first : Expr.Closed v e) (later : Expr.ClosedBody (v.after e) rest) :
    Expr.ClosedBody v (e :: rest)

end

namespace Visible

/-- Variables are bound by their identifiers. -/
theorem ofScope_withSymbols (scope : Scope) (names : List Text) :
    ofScope (scope.withSymbols names) =
      (ofScope scope).withVariables (names.map Identifier.ofName) := by
  simp [ofScope, Scope.withSymbols, withVariables]

/-- A new function is visible in front of the others. -/
theorem ofScope_withFunction {scope : Scope} {name : Text} (ha : scope.Admits name)
    (d : Declaration) :
    ofScope (scope.withFunction name d) = (ofScope scope).withFunction ⟨d.target, d.params⟩ := by
  simp only [ofScope, Dict.values, ha.pairs_withFunction d, List.map_cons, withFunction]
  rfl

/-- Inside a declaration the parameters and the function itself are visible. -/
theorem ofScope_insideFunction {scope : Scope} {name : Text} (ha : scope.Admits name)
    (names : List Text) :
    ofScope (scope.insideFunction name names) =
      (ofScope scope).inside ⟨Identifier.ofName name, names.map Identifier.ofName⟩ := by
  have hinner : (scope.withSymbols names).Admits name :=
    ⟨ha.notSpecial, ha.newName, ha.newTarget, ha.unreserved⟩
  rw [Scope.insideFunction, ofScope_withFunction hinner, ofScope_withSymbols]
  rfl

/-- What is visible after a resolved form is what its expression leaves visible. -/
theorem ofScope_scopeAfter {scope : Scope} {f : Form} {e : Expr} (h : Resolves scope f e) :
    ofScope (Resolve.scopeAfter scope f e) = (ofScope scope).after e := by
  rcases h.scopeAfter_cases with ⟨hsame, hne⟩ | ⟨name, names, exprs, hadmits, he, hafter⟩
  · rw [hsame]
    cases e with
    | define target params body => exact absurd rfl (hne target params body)
    | _ => rfl
  · rw [hafter, ofScope_withFunction hadmits, he]
    rfl

/-- What is visible after a resolved sequence is what its expressions leave visible. -/
theorem ofScope_sequence {forms : List Form} {scope final : Scope} {exprs : List Expr}
    (h : ResolvesSequence scope forms exprs final) :
    ofScope final = exprs.foldl after (ofScope scope) := by
  induction forms generalizing scope exprs with
  | nil =>
    cases h
    rfl
  | cons f rest ih =>
    cases h with
    | cons first later => rw [ih later, ofScope_scopeAfter first, List.foldl_cons]

/-- A declared function is visible, and no other function has its identifier. -/
theorem mem_ofScope {lib : Library} {scope : Scope} {name : Text} {d : Declaration}
    (hs : scope.Sound lib) (hd : scope.function? name = some d) :
    ⟨d.target, d.params⟩ ∈ (ofScope scope).functions ∧
      ∀ other ∈ (ofScope scope).functions, other.target = d.target → other = ⟨d.target, d.params⟩ := by
  refine ⟨List.mem_map.mpr ⟨d, Scope.mem_values_of_function? hd, rfl⟩, ?_⟩
  intro other hother htarget
  obtain ⟨d', hd', rfl⟩ := List.mem_map.mp hother
  obtain ⟨pair, hpair, rfl⟩ := List.mem_map.mp hd'
  rw [hs.eq_of_target hpair (Dict.mem_of_find? hd) htarget]

end Visible

mutual

/-- What a form resolves to is closed under the scope that it is resolved under. -/
theorem Resolves.closed {lib : Library} {scope : Scope} (hs : scope.Sound lib) :
    ∀ {f : Form} {e : Expr}, Resolves scope f e → e.Closed (.ofScope scope)
  | _, _, .string => .string
  | _, _, .number => .number
  | _, _, .symbol bound => .symbol (List.mem_map.mpr ⟨_, List.contains_iff_mem.mp bound, rfl⟩)
  | _, _, .vector values => .vector (values.closed hs)
  | _, _, .call _ declared arity values => by
    obtain ⟨hvisible, honly⟩ := Visible.mem_ofScope hs declared
    exact .call hvisible honly (values.length_eq.trans arity) (values.closed hs)
  | _, _, .define _ admits _ inside => by
    have hbody := inside.closedBody (hs.insideFunction admits _)
    rw [Visible.ofScope_insideFunction admits] at hbody
    exact .define hbody
  | _, _, .ifThen _ _ tested yesBranch => .ifThen (tested.closed hs) (yesBranch.closed hs)
  | _, _, .ifElse _ _ tested yesBranch noBranch =>
    .ifElse (tested.closed hs) (yesBranch.closed hs) (noBranch.closed hs)
  | _, _, .bind _ spells values inside => by
    have hvalues := values.closed (hs.withSymbols _)
    have hbody := inside.closedBody (hs.withSymbols _)
    have hnames := values.names
    rw [← spells.texts] at hnames
    rw [Visible.ofScope_withSymbols, ← hnames] at hvalues hbody
    exact .bind hvalues hbody
  | _, _, .sequence _ inside => .sequence (inside.closed hs)

/-- Resolved values are closed. -/
theorem ResolvesValues.closed {lib : Library} {scope : Scope} (hs : scope.Sound lib) :
    ∀ {forms : List Form} {exprs : List Expr}, ResolvesValues scope forms exprs →
      ∀ e ∈ exprs, e.Closed (.ofScope scope)
  | _, _, .nil => by simp
  | _, _, .cons _ first later => List.forall_mem_cons.mpr ⟨first.closed hs, later.closed hs⟩

/-- The values of a resolved binding are closed. -/
theorem ResolvesBindings.closed {lib : Library} {scope : Scope} (hs : scope.Sound lib) :
    ∀ {pairs : List Form} {bound : List (Text × Expr)}, ResolvesBindings scope pairs bound →
      ∀ b ∈ bound, b.2.Closed (.ofScope scope)
  | _, _, .nil => by simp
  | _, _, .cons _ first later => List.forall_mem_cons.mpr ⟨first.closed hs, later.closed hs⟩

/-- Statements that do not see each other's declarations are closed. -/
theorem ResolvesStatements.closed {lib : Library} {scope : Scope} (hs : scope.Sound lib) :
    ∀ {forms : List Form} {exprs : List Expr}, ResolvesStatements scope forms exprs →
      ∀ e ∈ exprs, e.Closed (.ofScope scope)
  | _, _, .nil => by simp
  | _, _, .cons first later => List.forall_mem_cons.mpr ⟨first.closed hs, later.closed hs⟩

/-- A resolved sequence is a closed body. -/
theorem ResolvesSequence.closedBody {lib : Library} {scope : Scope} (hs : scope.Sound lib) :
    ∀ {forms : List Form} {exprs : List Expr} {final : Scope},
      ResolvesSequence scope forms exprs final → Expr.ClosedBody (.ofScope scope) exprs
  | _, _, _, .nil => .nil
  | _, _, _, .cons first later => by
    have hlater := later.closedBody (hs.scopeAfter first)
    rw [Visible.ofScope_scopeAfter first] at hlater
    exact .cons (first.closed hs) hlater

end

/-- A resolved program is closed under the scope that it is resolved under: its variables are bound, and
its calls name exactly one visible function and agree with its parameters. The scope that it leaves shows
the functions that its own forms declare and no function declared further inside. -/
theorem resolve_closed {lib : Library} {scope next : Scope} {forms : List Form} {exprs : List Expr}
    (hscope : Scope.Reachable lib scope) (hresolve : resolve scope forms = .ok (exprs, next)) :
    Expr.ClosedBody (.ofScope scope) exprs ∧
      Visible.ofScope next = exprs.foldl Visible.after (.ofScope scope) := by
  have hsequence := Resolve.sequence_derivation hresolve
  exact ⟨hsequence.closedBody hscope.sound, Visible.ofScope_sequence hsequence⟩

/-- A library with subtraction alone. -/
def subtraction : Library :=
  .ofBuiltins [] [⟨"-", "-", ["a", "b"], [], .chain⟩] (by decide)

/-- The forms of a function that calls itself on a smaller number, and of a call of it. -/
def countdown : List Form :=
  [.group .round
    [.leaf .atom "defn" default, .leaf .atom "f" default,
      .group .square [.leaf .atom "n" default] default,
      .group .round
        [.leaf .atom "let" default,
          .group .square
            [.leaf .atom "m" default,
              .group .round
                [.leaf .atom "-" default, .leaf .atom "n" default, .leaf .number "1" default]
                default] default,
          .group .round [.leaf .atom "f" default, .leaf .atom "m" default] default] default]
    default,
   .group .round [.leaf .atom "f" default, .leaf .number "3" default] default]

/-- The expressions that the forms stand for. -/
def countdownExprs : List Expr :=
  [.define "f" ["n"]
    [.bind [("m", .call "-" [.symbol "n", .number "1"])] [.call "f" [.symbol "m"]]],
   .call "f" [.number "3"]]

/-- A library without Swift texts reserves only Swift's own names. -/
theorem reserved_subtraction : subtraction.reserved = Library.swiftNames := by
  have hnone : Declared.names [] = [] := by
    unfold Declared.names Declared.namesFrom
    rfl
  simp [Library.reserved, subtraction, Library.ofBuiltins, hnone]

/-- The function that calls itself resolves to closed expressions, and is visible after them. -/
theorem countdown_closed :
    ∃ next, resolve (.ofLibrary subtraction) countdown = .ok (countdownExprs, next) ∧
      Expr.ClosedBody (.ofScope (.ofLibrary subtraction)) countdownExprs ∧
      Visible.ofScope next = ⟨[], [⟨"f", ["n"]⟩, ⟨"-", ["a", "b"]⟩]⟩ := by
  have hresolve : ∃ next, resolve (.ofLibrary subtraction) countdown =
      .ok (countdownExprs, next) := by
    rw [Scope.ofLibrary, reserved_subtraction]
    exact ⟨_, rfl⟩
  obtain ⟨next, hnext⟩ := hresolve
  obtain ⟨hclosed, hvisible⟩ := resolve_closed .library hnext
  exact ⟨next, hnext, hclosed, hvisible⟩

end SwiftForms
