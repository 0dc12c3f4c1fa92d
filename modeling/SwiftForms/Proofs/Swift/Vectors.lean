import SwiftForms.Library.Standard
import SwiftForms.Proofs.Fallible
import SwiftForms.Proofs.Swift.Placement

/-!
# What keeps a resolved program from being written

Values and statements that stand where they may are written in Swift exactly when no vector occurs in
them. Main statement: of all the causes for which an expression cannot be written, a resolved program
meets none but the vector, and it meets that one whenever a vector occurs anywhere in it.
-/

namespace SwiftForms

namespace Render

open Fallible

variable {α β : Type}

/-- A computation that fails exactly in the case `p`, and then because of a vector. -/
def FailsIf (p : Prop) : Except RenderError α → Prop
  | .ok _ => ¬ p
  | .error e => p ∧ e.fault = .vector

/-- The same case may be put in other words. -/
theorem FailsIf.congr {p q : Prop} {x : Except RenderError α} (h : FailsIf p x) (hpq : p ↔ q) :
    FailsIf q x := by
  cases x with
  | ok a => exact fun hq => h (hpq.mpr hq)
  | error e => exact ⟨hpq.mp h.1, h.2⟩

/-- A computation in two steps fails in the cases of either step. -/
theorem FailsIf.bind {p q : Prop} {x : Except RenderError α} {f : α → Except RenderError β}
    (hx : FailsIf p x) (hf : ∀ a, x = .ok a → FailsIf q (f a)) : FailsIf (p ∨ q) (x >>= f) := by
  cases x with
  | error e => exact ⟨.inl hx.1, hx.2⟩
  | ok a =>
    have hnext : FailsIf q (f a) := hf a rfl
    change FailsIf (p ∨ q) (f a)
    exact hnext.congr ⟨.inr, fun h => h.resolve_left hx⟩

/-- A last step that cannot fail adds no case. -/
theorem FailsIf.map {p : Prop} {x : Except RenderError α} (hx : FailsIf p x) (g : α → β) :
    FailsIf p (x >>= fun a => pure (g a)) := by
  cases x with
  | error e => exact hx
  | ok a => exact hx

/-- As many texts as expressions are written. -/
theorem length_values {lib : Library} {exprs : List Expr} {texts : List Text}
    (h : values lib exprs = .ok texts) : texts.length = exprs.length := by
  induction exprs generalizing texts with
  | nil =>
    cases h
    rfl
  | cons e rest ih =>
    obtain ⟨text, _, h⟩ := bind_eq_ok.mp h
    obtain ⟨others, hothers, h⟩ := bind_eq_ok.mp h
    cases h
    rw [List.length_cons, List.length_cons, ih hothers]

/-- A call is written, if one that is written as a comparison has two arguments. -/
theorem callText_eq_ok {lib : Library} {name : Text} {args : List Expr} {texts : List Text}
    (h : (lib.targeted? name).map Builtin.style = some .comparison → texts.length = 2) :
    ∃ text, callText lib name args texts = .ok text := by
  unfold callText
  split
  · exact ⟨_, rfl⟩
  · rename_i hstyle
    obtain ⟨left, right, htexts⟩ := List.length_eq_two.mp (h hstyle)
    rw [htexts]
    exact ⟨_, rfl⟩
  · exact ⟨_, rfl⟩

/-- Expressions are written as values if each of them is. -/
theorem failsIf_values {lib : Library} {exprs : List Expr}
    (h : ∀ e ∈ exprs, FailsIf e.HasVector (value lib e)) :
    FailsIf (∃ e ∈ exprs, e.HasVector) (values lib exprs) := by
  induction exprs with
  | nil => exact fun ⟨e, he, _⟩ => List.not_mem_nil he
  | cons e rest ih =>
    obtain ⟨hfirst, hrest⟩ := List.forall_mem_cons.mp h
    exact (hfirst.bind fun text _ => (ih hrest).map (text :: ·)).congr (by simp)

/-- The values of a binding are written if each of them is. -/
theorem failsIf_bindings {lib : Library} {bound : List (Text × Expr)}
    (h : ∀ b ∈ bound, FailsIf b.2.HasVector (value lib b.2)) :
    FailsIf (∃ b ∈ bound, b.2.HasVector) (bindings lib bound) := by
  induction bound with
  | nil => exact fun ⟨b, hb, _⟩ => List.not_mem_nil hb
  | cons b rest ih =>
    obtain ⟨hfirst, hrest⟩ := List.forall_mem_cons.mp h
    exact (hfirst.bind fun text _ => (ih hrest).map ((b.1, text) :: ·)).congr (by simp)

/-- A value is written exactly when no vector occurs in it. -/
theorem failsIf_value {lib : Library} {e : Expr} (h : e.IsValue lib) :
    FailsIf e.HasVector (value lib e) := by
  induction h with
  | string => exact Expr.not_hasVector_of_leaf nofun rfl
  | number => exact Expr.not_hasVector_of_leaf nofun rfl
  | symbol => exact Expr.not_hasVector_of_leaf nofun rfl
  | vector each ih => exact ⟨Expr.hasVector_vector _, rfl⟩
  | @call name args comparison each ih =>
    have hparts : (Expr.call name args).HasVector ↔ ∃ arg ∈ args, arg.HasVector :=
      Expr.hasVector_iff_parts nofun
    have hcall : ∀ texts, values lib args = .ok texts →
        FailsIf False (callText lib name args texts) := by
      intro texts htexts
      obtain ⟨text, htext⟩ : ∃ text, callText lib name args texts = .ok text :=
        callText_eq_ok fun hstyle => (length_values htexts).trans (comparison hstyle)
      rw [htext]
      exact not_false
    rw [value]
    exact ((failsIf_values ih).bind hcall).congr (by rw [or_false, hparts])

/-- Expressions are written as statements if each of them is. -/
theorem failsIf_allStatements {lib : Library} {exprs : List Expr}
    (h : ∀ e ∈ exprs, FailsIf e.HasVector (statements lib e)) :
    FailsIf (∃ e ∈ exprs, e.HasVector) (allStatements lib exprs) := by
  induction exprs with
  | nil =>
    rw [allStatements]
    exact fun ⟨e, he, _⟩ => List.not_mem_nil he
  | cons e rest ih =>
    obtain ⟨hfirst, hrest⟩ := List.forall_mem_cons.mp h
    rw [allStatements]
    exact (hfirst.bind fun lines _ => (ih hrest).map (lines ++ ·)).congr (by simp)

/-- A function body is written if its expressions are, the last one so that it returns. -/
theorem failsIf_returning {lib : Library} {exprs : List Expr}
    (h : ∀ e ∈ exprs, FailsIf e.HasVector (statements lib e) ∧ FailsIf e.HasVector (tail lib e)) :
    FailsIf (∃ e ∈ exprs, e.HasVector) (returning lib exprs) := by
  induction exprs with
  | nil =>
    rw [returning]
    exact fun ⟨e, he, _⟩ => List.not_mem_nil he
  | cons e rest ih =>
    obtain ⟨hfirst, hrest⟩ := List.forall_mem_cons.mp h
    cases rest with
    | nil =>
      rw [returning]
      exact hfirst.2.congr (by simp)
    | cons next others =>
      rw [returning]
      exact (hfirst.1.bind fun lines _ => (ih hrest).map (lines ++ ·)).congr (by simp)

/-- A value stands as the statement of its text, and returns it. -/
theorem failsIf_valueStatement {lib : Library} {e : Expr} (h : e.IsValue lib) :
    FailsIf e.HasVector (statements lib e) ∧ FailsIf e.HasVector (tail lib e) := by
  have hstatements : statements lib e = value lib e >>= fun text => pure (valueStatement text) := by
    cases h <;> rfl
  have htail : tail lib e = value lib e >>= fun text => pure [.ret text] := by
    cases h <;> rfl
  rw [hstatements, htail]
  exact ⟨(failsIf_value h).map _, (failsIf_value h).map _⟩

/-- A statement is written exactly when no vector occurs in it, whether or not it has to return. -/
theorem failsIf_statement {lib : Library} {e : Expr} (h : e.IsStatement lib) :
    FailsIf e.HasVector (statements lib e) ∧ FailsIf e.HasVector (tail lib e) := by
  induction h with
  | value hvalue => exact failsIf_valueStatement hvalue
  | @define name params body each ih =>
    have hparts : (Expr.define name params body).HasVector ↔ ∃ e ∈ body, e.HasVector :=
      Expr.hasVector_iff_parts nofun
    rw [hparts, statements, tail]
    exact ⟨(failsIf_returning ih).map _, (failsIf_returning ih).map _⟩
  | @ifThen test yes tested yesBranch ih =>
    have hparts : (Expr.ifThen test yes).HasVector ↔ test.HasVector ∨ yes.HasVector :=
      (Expr.hasVector_iff_parts fun _ heq => by cases heq).trans (by simp [Expr.parts])
    rw [hparts, statements, tail]
    exact ⟨(failsIf_value tested).bind fun _ _ => ih.1.map _,
      (failsIf_value tested).bind fun _ _ => ih.2.map _⟩
  | @ifElse test yes no tested yesBranch noBranch ihYes ihNo =>
    have hparts : (Expr.ifElse test yes no).HasVector ↔
        test.HasVector ∨ yes.HasVector ∨ no.HasVector :=
      (Expr.hasVector_iff_parts fun _ heq => by cases heq).trans (by simp [Expr.parts])
    rw [hparts, statements, tail]
    exact ⟨(failsIf_value tested).bind fun _ _ => ihYes.1.bind fun _ _ => ihNo.1.map _,
      (failsIf_value tested).bind fun _ _ => ihYes.2.bind fun _ _ => ihNo.2.map _⟩
  | @bind bound body values each ih =>
    have hparts : (Expr.bind bound body).HasVector ↔
        (∃ b ∈ bound, b.2.HasVector) ∨ ∃ e ∈ body, e.HasVector :=
      (Expr.hasVector_iff_parts fun _ heq => by cases heq).trans
        (by grind [Expr.parts])
    have hbound := failsIf_bindings fun b hb => failsIf_value (values b hb)
    have hbody := failsIf_allStatements fun e he => (ih e he).1
    rw [hparts, statements, tail]
    exact ⟨hbound.bind fun _ _ => hbody.map _,
      hbound.bind fun _ _ => (failsIf_returning ih).map _⟩
  | @sequence body each ih =>
    have hparts : (Expr.sequence body).HasVector ↔ ∃ e ∈ body, e.HasVector :=
      Expr.hasVector_iff_parts nofun
    rw [hparts, statements, tail]
    exact ⟨failsIf_allStatements fun e he => (ih e he).1, failsIf_returning ih⟩

/-- A program of statements is written exactly when no vector occurs in it. -/
theorem failsIf_render {lib : Library} {exprs : List Expr} (h : ∀ e ∈ exprs, e.IsStatement lib) :
    FailsIf (∃ e ∈ exprs, e.HasVector) (render lib exprs) :=
  (failsIf_allStatements fun e he => (failsIf_statement (h e he)).1).map _

end Render

/-- A resolved program can be written in Swift if and only if no vector occurs anywhere in it, and one
that cannot be written is refused for a vector and for no other cause. -/
theorem render_resolved_iff {lib : Library} {scope next : Scope} {forms : List Form}
    {exprs : List Expr} (hscope : Scope.Reachable lib scope)
    (hresolve : resolve scope forms = .ok (exprs, next)) :
    ((∃ text, render lib exprs = .ok text) ↔ ¬ ∃ e ∈ exprs, e.HasVector) ∧
      ∀ error, render lib exprs = .error error →
        error.fault = .vector ∧ error.fault.reason = "vector in rendering position" := by
  have hstatements : ∀ e ∈ exprs, e.IsStatement lib :=
    (Resolve.sequence_derivation hresolve).isStatement hscope.sound
  have hfails := Render.failsIf_render hstatements
  cases hrender : render lib exprs with
  | ok text =>
    rw [hrender] at hfails
    refine ⟨⟨fun _ => hfails, fun _ => ⟨text, rfl⟩⟩, ?_⟩
    intro error herror
    cases herror
  | error cause =>
    rw [hrender] at hfails
    obtain ⟨hvector, hfault⟩ := hfails
    refine ⟨⟨?_, fun hnone => absurd hvector hnone⟩, ?_⟩
    · rintro ⟨text, htext⟩
      cases htext
    · intro error herror
      cases herror
      rw [hfault]
      exact ⟨rfl, rfl⟩

/-- The form of a conditional on a comparison with a vector in its second branch. -/
def vectorBranch : Form :=
  .group .round
    [.leaf .atom "if" default,
      .group .round [.leaf .atom "<" default, .leaf .atom "x" default, .leaf .number "2" default]
        default,
      .leaf .atom "x" default, .group .square [.leaf .atom "x" default] default] default

/-- The expression that the conditional stands for. -/
def vectorBranchExpr : Expr :=
  .ifElse (.call "<" [.symbol "x", .number "2"]) (.symbol "x") (.vector [.symbol "x"])

/-- The conditional resolves where its variable is bound, and what it resolves to is not written. -/
theorem render_vectorBranch :
    Scope.Reachable .standard ((Scope.ofLibrary .standard).withSymbols ["x"]) ∧
      resolve ((Scope.ofLibrary .standard).withSymbols ["x"]) [vectorBranch] =
        .ok ([vectorBranchExpr], (Scope.ofLibrary .standard).withSymbols ["x"]) ∧
      ¬ ∃ text, render .standard [vectorBranchExpr] = .ok text := by
  have hscope : Scope.Reachable .standard ((Scope.ofLibrary .standard).withSymbols ["x"]) :=
    .withSymbols _ .library
  have hresolve : resolve ((Scope.ofLibrary .standard).withSymbols ["x"]) [vectorBranch] =
      .ok ([vectorBranchExpr], (Scope.ofLibrary .standard).withSymbols ["x"]) := rfl
  refine ⟨hscope, hresolve, ?_⟩
  rw [(render_resolved_iff hscope hresolve).1, not_not]
  refine ⟨vectorBranchExpr, List.mem_cons_self, [.symbol "x"], ?_⟩
  exact .inside (by simp [vectorBranchExpr, Expr.parts]) .here

end SwiftForms
