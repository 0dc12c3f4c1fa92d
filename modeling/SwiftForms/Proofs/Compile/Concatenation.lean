import SwiftForms.Compile
import SwiftForms.Proofs.Form.Concatenation
import SwiftForms.Proofs.Resolve.Relocation

/-!
# Compiling one text after another

Each of the three stages goes through a program from its start to its end, and none of them looks
back. Two texts that compile, the second under the scope that the first one leaves, compile as one
text with a newline between them, to the two outputs one after the other.
-/

namespace SwiftForms

open Fallible

/-- Forms one after another are resolved one part after the other. -/
theorem Resolve.sequence_append {scope middle final : Scope} {first second : List Form}
    {exprs others : List Expr} (hfirst : sequence scope first = .ok (exprs, middle))
    (hsecond : sequence middle second = .ok (others, final)) :
    sequence scope (first ++ second) = .ok (exprs ++ others, final) := by
  induction first generalizing scope exprs with
  | nil =>
    cases hfirst
    exact hsecond
  | cons statement rest ih =>
    obtain ⟨expr, hexpr, htail⟩ := bind_eq_ok.mp hfirst
    obtain ⟨⟨tail, last⟩, hrest, hpair⟩ := bind_eq_ok.mp htail
    cases hpair
    rw [List.cons_append, sequence, hexpr]
    dsimp only [bind, Except.bind]
    rw [ih hrest]
    rfl

/-- Expressions one after another are written one part after the other. -/
theorem Render.allStatements_append {lib : Library} {exprs others : List Expr}
    {lines more : List Stmt} (hfirst : allStatements lib exprs = .ok lines)
    (hsecond : allStatements lib others = .ok more) :
    allStatements lib (exprs ++ others) = .ok (lines ++ more) := by
  induction exprs generalizing lines with
  | nil =>
    cases hfirst
    exact hsecond
  | cons e rest ih =>
    obtain ⟨first, he, htail⟩ := bind_eq_ok.mp hfirst
    obtain ⟨tail, hrest, hlines⟩ := bind_eq_ok.mp htail
    cases hlines
    rw [List.cons_append, allStatements, he]
    dsimp only [bind, Except.bind]
    rw [ih hrest, List.append_assoc]
    rfl

/-- The lines of statements are those of one part after those of the other. -/
theorem Stmt.allLines_append (statements others : List Stmt) :
    allLines (statements ++ others) = allLines statements ++ allLines others := by
  induction statements with
  | nil => rfl
  | cons statement rest ih => rw [List.cons_append, allLines, allLines, ih, List.append_assoc]

/-- The text of statements is that of one part after that of the other. -/
theorem Stmt.print_append (statements others : List Stmt) :
    print (statements ++ others) = print statements ++ print others := by
  rw [print, allLines_append, List.flatMap_append]
  rfl

/-- The Swift text of two programs is that of one after that of the other. -/
theorem render_append {lib : Library} {exprs others : List Expr} {swift more : Text}
    (hfirst : render lib exprs = .ok swift) (hsecond : render lib others = .ok more) :
    render lib (exprs ++ others) = .ok (swift ++ more) := by
  obtain ⟨lines, hlines, hswift⟩ := bind_eq_ok.mp hfirst
  obtain ⟨moreLines, hmore, hmoreSwift⟩ := bind_eq_ok.mp hsecond
  cases hswift
  cases hmoreSwift
  rw [render, Render.allStatements_append hlines hmore]
  exact congrArg Except.ok (Stmt.print_append lines moreLines)

/-- What it takes for a source to compile: it can be read, resolved and written. -/
theorem compileUnder_eq_ok {lib : Library} {scope next : Scope} {source swift : Text} :
    compileUnder lib scope source = .ok (swift, next) ↔
      ∃ forms exprs, read source = .ok forms ∧ resolve scope forms = .ok (exprs, next) ∧
        render lib exprs = .ok swift := by
  constructor
  · intro h
    obtain ⟨⟨exprs, final⟩, hsource, hwritten⟩ := bind_eq_ok.mp h
    obtain ⟨forms, hread, hresolve⟩ := bind_eq_ok.mp hsource
    obtain ⟨text, hrender, hpair⟩ := bind_eq_ok.mp hwritten
    cases hpair
    exact ⟨forms, exprs, mapError_eq_ok.mp hread, mapError_eq_ok.mp hresolve,
      mapError_eq_ok.mp hrender⟩
  · rintro ⟨forms, exprs, hread, hresolve, hrender⟩
    rw [compileUnder, resolveSource, hread]
    dsimp only [bind, Except.bind, Except.mapError]
    rw [hresolve]
    dsimp only
    rw [hrender]
    rfl

/-- Two sources that compile one after the other compile as one source with a newline between them. -/
theorem compileUnder_append_newline {lib : Library} {scope middle final : Scope}
    {source swift later more : Text} (hfirst : compileUnder lib scope source = .ok (swift, middle))
    (hsecond : compileUnder lib middle later = .ok (more, final)) :
    compileUnder lib scope (source ++ newline :: later) = .ok (swift ++ more, final) := by
  obtain ⟨forms, exprs, hread, hresolve, hrender⟩ := compileUnder_eq_ok.mp hfirst
  obtain ⟨laterForms, laterExprs, hlaterRead, hlaterResolve, hlaterRender⟩ :=
    compileUnder_eq_ok.mp hsecond
  have hjoined := read_append_newline hread later
  rw [hlaterRead] at hjoined
  have hmoved := Resolve.sequence_relocate
    (Position.shift (source.length + 1) (source.count newline + 1)) middle laterForms
  rw [show Resolve.sequence middle laterForms = .ok (laterExprs, final) from hlaterResolve] at hmoved
  exact compileUnder_eq_ok.mpr ⟨_, _, hjoined, Resolve.sequence_append hresolve hmoved,
    render_append hrender hlaterRender⟩

/-- The empty source compiles to the empty text and declares nothing. -/
theorem compileUnder_nil (lib : Library) (scope : Scope) :
    compileUnder lib scope [] = .ok ([], scope) := by
  refine compileUnder_eq_ok.mpr ⟨[], [], ?_, rfl, rfl⟩
  rw [read_eq, Reader.readForms_nil]

/-- A source that compiles can be put in front of a program that compiles after it. -/
theorem compileUnder_join_cons {lib : Library} {scope middle final : Scope} {source swift more : Text}
    {sources : List Text} (hfirst : compileUnder lib scope source = .ok (swift, middle))
    (hrest : compileUnder lib middle (Text.join [newline] sources) = .ok (more, final)) :
    compileUnder lib scope (Text.join [newline] (source :: sources)) = .ok (swift ++ more, final) := by
  cases sources with
  | nil =>
    have hempty := (compileUnder_nil lib middle).symm.trans hrest
    cases hempty
    rw [List.append_nil]
    exact hfirst
  | cons second others =>
    rw [Text.join_cons_cons, List.append_assoc]
    exact compileUnder_append_newline hfirst hrest

end SwiftForms
