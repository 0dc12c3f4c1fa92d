import SwiftForms.Proofs.Compile.Concatenation

/-!
# Dividing a program

The converse of putting texts one after another. A program that compiles can be cut at the end of any
line up to which it can be read: the part before compiles, the part after compiles under the scope
that the first one leaves, and the output is cut in two.
-/

namespace SwiftForms

open Fallible

/-- Forms that are resolved one after another are resolved in two parts. -/
theorem Resolve.exists_of_sequence_append {scope final : Scope} {first second : List Form}
    {exprs : List Expr} (h : sequence scope (first ++ second) = .ok (exprs, final)) :
    ∃ before after middle, sequence scope first = .ok (before, middle) ∧
      sequence middle second = .ok (after, final) ∧ exprs = before ++ after := by
  induction first generalizing scope exprs with
  | nil => exact ⟨[], exprs, scope, rfl, h, rfl⟩
  | cons statement rest ih =>
    rw [List.cons_append, sequence] at h
    obtain ⟨expr, hexpr, htail⟩ := bind_eq_ok.mp h
    obtain ⟨⟨tail, last⟩, hrest, hpair⟩ := bind_eq_ok.mp htail
    cases hpair
    obtain ⟨before, after, middle, hbefore, hafter, rfl⟩ := ih hrest
    refine ⟨expr :: before, after, middle, ?_, hafter, rfl⟩
    rw [sequence, hexpr]
    dsimp only [bind, Except.bind]
    rw [hbefore]
    rfl

/-- Expressions that are written one after another are written in two parts. -/
theorem Render.exists_of_allStatements_append {lib : Library} {exprs others : List Expr}
    {lines : List Stmt} (h : allStatements lib (exprs ++ others) = .ok lines) :
    ∃ before after, allStatements lib exprs = .ok before ∧ allStatements lib others = .ok after ∧
      lines = before ++ after := by
  induction exprs generalizing lines with
  | nil => exact ⟨[], lines, rfl, h, rfl⟩
  | cons e rest ih =>
    rw [List.cons_append, allStatements] at h
    obtain ⟨first, he, htail⟩ := bind_eq_ok.mp h
    obtain ⟨tail, hrest, hlines⟩ := bind_eq_ok.mp htail
    cases hlines
    obtain ⟨before, after, hbefore, hafter, rfl⟩ := ih hrest
    refine ⟨first ++ before, after, ?_, hafter, (List.append_assoc _ _ _).symm⟩
    rw [allStatements, he]
    dsimp only [bind, Except.bind]
    rw [hbefore]
    rfl

/-- The Swift text of a program is that of its first part and then that of its second. -/
theorem exists_of_render_append {lib : Library} {exprs others : List Expr} {swift : Text}
    (h : render lib (exprs ++ others) = .ok swift) :
    ∃ before after, render lib exprs = .ok before ∧ render lib others = .ok after ∧
      swift = before ++ after := by
  obtain ⟨lines, hlines, hswift⟩ := bind_eq_ok.mp h
  cases hswift
  obtain ⟨first, second, hfirst, hsecond, rfl⟩ := Render.exists_of_allStatements_append hlines
  refine ⟨Stmt.print first, Stmt.print second, ?_, ?_, Stmt.print_append first second⟩
  · rw [render, hfirst]
    rfl
  · rw [render, hsecond]
    rfl

/-- A program that compiles, cut after a line up to which it can be read, compiles in two parts. -/
theorem exists_of_compileUnder_append_newline {lib : Library} {scope final : Scope}
    {source later swift : Text} {forms : List Form} (hread : read source = .ok forms)
    (h : compileUnder lib scope (source ++ newline :: later) = .ok (swift, final)) :
    ∃ before after middle, compileUnder lib scope source = .ok (before, middle) ∧
      compileUnder lib middle later = .ok (after, final) ∧ swift = before ++ after := by
  obtain ⟨whole, exprs, hwhole, hresolve, hrender⟩ := compileUnder_eq_ok.mp h
  rw [read_append_newline hread] at hwhole
  obtain ⟨moved, hmoved, rfl⟩ := map_eq_ok.mp hwhole
  cases hlater : read later with
  | error e =>
    rw [hlater] at hmoved
    cases hmoved
  | ok laterForms =>
    rw [hlater] at hmoved
    cases hmoved
    obtain ⟨firstExprs, laterExprs, middle, hfirst, hsecond, rfl⟩ :=
      Resolve.exists_of_sequence_append hresolve
    rw [Resolve.sequence_relocate, mapError_eq_ok] at hsecond
    obtain ⟨before, after, hbefore, hafter, rfl⟩ := exists_of_render_append hrender
    exact ⟨before, after, middle, compileUnder_eq_ok.mpr ⟨forms, firstExprs, hread, hfirst, hbefore⟩,
      compileUnder_eq_ok.mpr ⟨laterForms, laterExprs, hlater, hsecond, hafter⟩, rfl⟩

end SwiftForms
