import SwiftForms.Proofs.Resolve.Spelling
import SwiftForms.Proofs.Swift.Vectors

/-!
# Whether grouping survives writing

The text of a value is meant to be read as that value. It is, for every value of a resolved program
over the standard library, unless a comparison is an operand of an operator somewhere in it. Then the
text is read as another expression or as none, and two values may share it.
-/

namespace SwiftForms

open Swift

/-- A value without vectors that stands somewhere in a resolved program over the standard library. -/
structure Expr.IsResolvedValue (e : Expr) : Prop where
  /-- It is a value. -/
  value : e.IsValue .standard
  /-- No vector occurs in it. -/
  noVector : ¬ e.HasVector
  /-- It stands in the expressions that a source text stands for. -/
  resolved : ∃ (scope next : Scope) (source : Text) (forms : List Form) (exprs : List Expr),
    Scope.Reachable .standard scope ∧ read source = .ok forms ∧
      resolve scope forms = .ok (exprs, next) ∧ ∃ whole ∈ exprs, Occurs e whole

/-- The values of resolved programs can be written and read. -/
theorem Expr.IsResolvedValue.isTerm {e : Expr} (h : e.IsResolvedValue) : IsTerm e := by
  obtain ⟨scope, next, source, forms, exprs, hscope, hread, hresolve, whole, hwhole, hoccurs⟩ :=
    h.resolved
  have hspelled : whole.AllSpelled :=
    (Resolve.sequence_derivation hresolve).allSpelled hscope.named (wellFormed_of_read hread) whole
      hwhole
  exact h.value.isTerm (fun part hpart => hspelled part (hpart.trans hoccurs)) h.noVector

/-- A value is written as a text that is read as the value exactly if no comparison is an operand of an
operator in it, and such values are written differently if they are different. -/
theorem read_value_iff {e : Expr} (h : e.IsResolvedValue) :
    ∃ text, Render.value .standard e = .ok text ∧
      (read? text = some e ↔ ¬ HasBareComparison e) ∧
      ∀ other : Expr, other.IsResolvedValue → ¬ HasBareComparison e → ¬ HasBareComparison other →
        Render.value .standard other = .ok text → other = e := by
  obtain ⟨text, hvalue, hread⟩ := exists_value_read? h.isTerm
  refine ⟨text, hvalue, ?_, ?_⟩
  · rw [hread]
    exact regrouped_eq_self_iff h.isTerm
  · intro other hother hbare hotherBare hotherValue
    obtain ⟨otherText, hotherText, hotherRead⟩ := exists_value_read? hother.isTerm
    rw [hotherValue] at hotherText
    cases hotherText
    rw [(regrouped_eq_self_iff h.isTerm).mpr hbare] at hread
    rw [(regrouped_eq_self_iff hother.isTerm).mpr hotherBare, hread] at hotherRead
    exact (Option.some.inj hotherRead).symm

/-- The call that a source text stands for is a value of a resolved program, if it can be written. -/
theorem isResolvedValue_call {scope next : Scope} {source text name : Text} {forms : List Form}
    {args : List Expr} (hscope : Scope.Reachable .standard scope) (hread : read source = .ok forms)
    (hresolve : resolve scope forms = .ok ([.call name args], next))
    (hvalue : Render.value .standard (.call name args) = .ok text) :
    (Expr.call name args).IsResolvedValue := by
  have hstatement : (Expr.call name args).IsStatement .standard :=
    (Resolve.sequence_derivation hresolve).isStatement hscope.sound _ List.mem_cons_self
  cases hstatement with
  | value hcall =>
    have hvector := Render.failsIf_value hcall
    rw [hvalue] at hvector
    exact ⟨hcall, hvector, scope, next, source, forms, _, hscope, hread, hresolve, _,
      List.mem_cons_self, .here⟩

/-- The scope of the standard library with three variables. -/
def threeVariables : Scope :=
  (Scope.ofLibrary .standard).withSymbols ["a", "b", "c"]

/-- That scope is one that programs are resolved under. -/
theorem reachable_threeVariables : Scope.Reachable .standard threeVariables :=
  .withSymbols _ .library

/-- A difference in which a comparison is the argument of a function. -/
def enclosed : Expr :=
  .call "-" [.call "*" [.symbol "a", .number "-2"], .call "str" [.call "<" [.symbol "b", .symbol "c"]]]

/-- The forms of that difference. -/
def enclosedForms : List Form :=
  [.group .round
    [.leaf .atom "-" ⟨1, 1, 2⟩,
      .group .round [.leaf .atom "*" ⟨4, 1, 5⟩, .leaf .atom "a" ⟨6, 1, 7⟩, .leaf .number "-2" ⟨8, 1, 9⟩]
        ⟨3, 1, 4⟩,
      .group .round
        [.leaf .atom "str" ⟨13, 1, 14⟩,
          .group .round [.leaf .atom "<" ⟨18, 1, 19⟩, .leaf .atom "b" ⟨20, 1, 21⟩,
            .leaf .atom "c" ⟨22, 1, 23⟩] ⟨17, 1, 18⟩] ⟨12, 1, 13⟩]
    ⟨0, 1, 1⟩]

/-- The difference is read back from its text, and no comparison is an operand in it. -/
theorem read_value_enclosed :
    enclosed.IsResolvedValue ∧
      Render.value .standard enclosed = .ok "((a * -2) - str(b < c))" ∧
      read? "((a * -2) - str(b < c))" = some enclosed ∧ ¬ HasBareComparison enclosed := by
  have hread : read "(- (* a -2) (str (< b c)))" = .ok enclosedForms := by
    with_unfolding_all rfl
  have hvalue : Render.value .standard enclosed = .ok "((a * -2) - str(b < c))" := rfl
  have hresolved : enclosed.IsResolvedValue :=
    isResolvedValue_call reachable_threeVariables hread rfl hvalue
  have hback : read? "((a * -2) - str(b < c))" = some enclosed := by
    with_unfolding_all rfl
  obtain ⟨text, htext, hiff, -⟩ := read_value_iff hresolved
  rw [hvalue] at htext
  cases htext
  exact ⟨hresolved, hvalue, hback, hiff.mp hback⟩

/-- A difference with a comparison in front. -/
def exposed : Expr :=
  .call "-" [.call "<" [.symbol "a", .symbol "b"], .symbol "c"]

/-- The forms of that difference. -/
def exposedForms : List Form :=
  [.group .round
    [.leaf .atom "-" ⟨1, 1, 2⟩,
      .group .round [.leaf .atom "<" ⟨4, 1, 5⟩, .leaf .atom "a" ⟨6, 1, 7⟩, .leaf .atom "b" ⟨8, 1, 9⟩]
        ⟨3, 1, 4⟩,
      .leaf .atom "c" ⟨11, 1, 12⟩]
    ⟨0, 1, 1⟩]

/-- A difference with a comparison in front is read as a comparison with a difference behind, and of two
comparisons in a row the text does not tell which is an operand of the other. -/
theorem exposed_misread :
    exposed.IsResolvedValue ∧
      Render.value .standard exposed = .ok "(a < b - c)" ∧
      read? "(a < b - c)" = some (.call "<" [.symbol "a", .call "-" [.symbol "b", .symbol "c"]]) ∧
      Render.value .standard (.call "<" [.call "<" [.symbol "a", .symbol "b"], .symbol "c"]) =
        Render.value .standard (.call "<" [.symbol "a", .call "<" [.symbol "b", .symbol "c"]]) := by
  have hread : read "(- (< a b) c)" = .ok exposedForms := by
    with_unfolding_all rfl
  have hvalue : Render.value .standard exposed = .ok "(a < b - c)" := rfl
  refine ⟨isResolvedValue_call reachable_threeVariables hread rfl hvalue, hvalue, ?_, rfl⟩
  with_unfolding_all rfl

end SwiftForms
