import SwiftForms.Proofs.Resolve.Closed
import SwiftForms.Proofs.Resolve.Weakening
import SwiftForms.Proofs.Session.Declarations

/-!
# Sources that compile on their own

A source that compiles in a new session compiles to the same text in any session, or else it declares
a name that the session has declared already. So nothing that happened in a session can change what a
source means, and it can be refused for one reason only.
-/

namespace SwiftForms

open Fallible

/-- A source that compiles under a scope compiles to the same text under a larger one, or one of its
declarations clashes with the functions added. -/
theorem compileUnder_weaken {lib : Library} {added : List Text} {scope larger next : Scope}
    {source swift : Text} (h : scope.Within added larger)
    (hsource : compileUnder lib scope source = .ok (swift, next)) :
    (∃ final, compileUnder lib larger source = .ok (swift, final)) ∨
      ∃ e, compileUnder lib larger source = .error (.resolve e) ∧ e.Clash added := by
  obtain ⟨forms, exprs, hread, hresolve, hrender⟩ := compileUnder_eq_ok.mp hsource
  have hlarger := (Resolve.sequence_derivation hresolve).weaken h
  generalize houtcome : Resolve.sequence larger forms = outcome at hlarger
  cases hlarger with
  | @gives pair holds =>
    have hexprs : resolve larger forms = .ok (exprs, pair.2) := by
      rw [resolve, houtcome, ← holds.1]
    exact .inl ⟨pair.2, compileUnder_eq_ok.mpr ⟨forms, exprs, hread, hexprs, hrender⟩⟩
  | @clashes e clash =>
    have hfailed : resolve larger forms = .error e := houtcome
    have hstage : resolveSource larger source = .error (.resolve e) := by
      rw [resolveSource, hread]
      exact congrArg (Except.mapError CompileError.resolve) hfailed
    refine .inr ⟨e, ?_, clash⟩
    rw [compileUnder, hstage]
    rfl

namespace Session

/-- What a source compiles to in a session is what it compiles to under its scope. -/
theorem fst_compile (s : Session) (source : Text) :
    (s.compile source).1 = (compileUnder s.library s.scope source).map Prod.fst := by
  rw [compile]
  cases compileUnder s.library s.scope source <;> rfl

/-- The scope of a session is that of the library with the functions of the accepted program. -/
theorem Record.Sound.within {lib : Library} {r : Record} (h : r.Sound lib) :
    (Scope.ofLibrary lib).Within r.names r.session.scope := by
  refine ⟨h.symbols, h.scope.reserved, ?_, ?_⟩
  · intro name d hd
    obtain ⟨b, hb, rfl, rfl⟩ := Scope.function?_ofLibrary.mp hd
    exact h.scope.builtins b hb
  · intro name d hmem
    rw [h.pairs] at hmem
    rcases List.mem_append.mp hmem with hdeclared | hbuiltin
    · have hd := List.mem_reverse.mp hdeclared
      obtain ⟨-, -, f, params, body, hf, hname, rfl⟩ := h.of_mem_declarations hd
      exact .inr ⟨List.mem_filterMap.mpr ⟨_, hf, hname⟩, rfl⟩
    · exact .inl hbuiltin

/-- A source that compiles in a new session compiles to the same text after any steps, or fails since
it declares a function that exists already: one with the identifier of a function that the session has
declared. -/
theorem compile_eq_or_clash (lib : Library) (steps : List Step) {source swift : Text}
    (h : ((start lib).compile source).1 = .ok swift) :
    let s := ((Record.start lib).run steps).session
    (s.compile source).1 = .ok swift ∨
      ∃ e, (s.compile source).1 = .error (.resolve e) ∧ e.fault = .alreadyExists ∧
        ∃ name ∈ s.declared, Identifier.ofName name = Identifier.ofName e.name := by
  intro s
  have hsound := (Record.sound_start lib).run steps
  rw [fst_compile] at h
  obtain ⟨⟨_, next⟩, hfresh, rfl⟩ := map_eq_ok.mp h
  have hsession : (s.compile source).1 = (compileUnder lib s.scope source).map Prod.fst := by
    rw [fst_compile, hsound.library]
  rcases compileUnder_weaken hsound.within hfresh with ⟨final, hdone⟩ | ⟨e, hfailed, hclash⟩
  · exact .inl (hsession.trans (congrArg (Except.map Prod.fst) hdone))
  · obtain ⟨name, hname, hsame⟩ := hclash.name
    have hdeclared := hsound.sorts_declared.perm.mem_iff.mpr hname
    exact .inr ⟨e, hsession.trans (congrArg (Except.map Prod.fst) hfailed), hclash.fault, name,
      hdeclared, hsame⟩

/-- The declaration of a function that subtracts one. -/
def predecessor : Text :=
  "(defn f [n] (- n 1))"

/-- The forms of the declaration. -/
def predecessorForms : List Form :=
  [.group .round
    [.leaf .atom "defn" ⟨1, 1, 2⟩, .leaf .atom "f" ⟨6, 1, 7⟩,
      .group .square [.leaf .atom "n" ⟨9, 1, 10⟩] ⟨8, 1, 9⟩,
      .group .round
        [.leaf .atom "-" ⟨13, 1, 14⟩, .leaf .atom "n" ⟨15, 1, 16⟩, .leaf .number "1" ⟨17, 1, 18⟩]
        ⟨12, 1, 13⟩]
    ⟨0, 1, 1⟩]

/-- The Swift text of the declaration. -/
def predecessorSwift : Text :=
  "@discardableResult\nfunc f(_ n: Value) -> Value \x7b\n    return (n - 1)\n\x7d\n"

/-- The declaration compiles in a new session. After it has been compiled once, forgotten and compiled
again with another one before it, it gives the same text or clashes. -/
theorem compile_predecessor :
    ((start subtraction).compile predecessor).1 = .ok predecessorSwift ∧
      let s := ((Record.start subtraction).run
        [.compile predecessor, .reset, .compile "(defn g [] 1)", .compile predecessor]).session
      (s.compile predecessor).1 = .ok predecessorSwift ∨
        ∃ e, (s.compile predecessor).1 = .error (.resolve e) ∧ e.fault = .alreadyExists ∧
          ∃ name ∈ s.declared, Identifier.ofName name = Identifier.ofName e.name := by
  have hread : read predecessor = .ok predecessorForms := by
    with_unfolding_all rfl
  have hresolve : ∃ final, resolve (.ofLibrary subtraction) predecessorForms =
      .ok ([.define "f" ["n"] [.call "-" [.symbol "n", .number "1"]]], final) := by
    rw [Scope.ofLibrary, reserved_subtraction]
    exact ⟨_, rfl⟩
  obtain ⟨final, hfinal⟩ := hresolve
  have hunder : compileUnder subtraction (.ofLibrary subtraction) predecessor =
      .ok (predecessorSwift, final) := compileUnder_eq_ok.mpr ⟨_, _, hread, hfinal, rfl⟩
  have hcompile : ((start subtraction).compile predecessor).1 = .ok predecessorSwift :=
    (fst_compile _ _).trans (congrArg (Except.map Prod.fst) hunder)
  exact ⟨hcompile, compile_eq_or_clash subtraction _ hcompile⟩

end Session

end SwiftForms
