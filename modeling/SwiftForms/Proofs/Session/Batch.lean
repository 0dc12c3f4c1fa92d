import SwiftForms.Proofs.Compile.Concatenation
import SwiftForms.Proofs.Compiler.Cached
import SwiftForms.Session

/-!
# A session and a single program

The sources that compile in a session make up a program. Compiled at once, with newlines between the
sources, the program gives the outputs of the session one after another. The sources that fail on the
way have no part in it: without them the session goes through the same states and gives the same
outputs, and whatever comes later has the same results.
-/

namespace SwiftForms.Session

/-- Compiles sources one after another: each source with its result, and the session after them. -/
def compileAll (s : Session) : List Text → List (Text × Except CompileError Text) × Session
  | [] => ([], s)
  | source :: rest =>
    let step := s.compile source
    let later := step.2.compileAll rest
    ((source, step.1) :: later.1, later.2)

/-- A source that has compiled with its output. -/
def output? : Text × Except CompileError Text → Option (Text × Text)
  | (source, .ok swift) => some (source, swift)
  | (_, .error _) => none

/-- The sources that have compiled, each with its output. -/
def outputs (results : List (Text × Except CompileError Text)) : List (Text × Text) :=
  results.filterMap output?

/-- A source that compiles advances the scope. -/
theorem compile_of_ok {s : Session} {source swift : Text} {next : Scope}
    (h : compileUnder s.library s.scope source = .ok (swift, next)) :
    s.compile source = (.ok swift, { s with scope := next }) := by
  rw [compile, h]

/-- A source that fails leaves the session as it was. -/
theorem compile_of_error {s : Session} {source : Text} {e : CompileError}
    (h : compileUnder s.library s.scope source = .error e) : s.compile source = (.error e, s) := by
  rw [compile, h]

/-- Sources in two parts are compiled one part after the other. -/
theorem compileAll_append (s : Session) (sources later : List Text) :
    s.compileAll (sources ++ later) =
      ((s.compileAll sources).1 ++ ((s.compileAll sources).2.compileAll later).1,
        ((s.compileAll sources).2.compileAll later).2) := by
  induction sources generalizing s with
  | nil => rfl
  | cons source rest ih => simp only [List.cons_append, compileAll, ih]

/-- A session over the sources that compile alone goes through the same states to the same outputs. -/
theorem compileAll_outputs (s : Session) (sources : List Text) :
    s.compileAll ((outputs (s.compileAll sources).1).map Prod.fst) =
      ((outputs (s.compileAll sources).1).map fun pair => (pair.1, .ok pair.2),
        (s.compileAll sources).2) := by
  induction sources generalizing s with
  | nil => rfl
  | cons source rest ih =>
    cases h : compileUnder s.library s.scope source with
    | error e =>
      simp only [compileAll, compile_of_error h, outputs, List.filterMap_cons, output?]
      exact ih s
    | ok pair =>
      obtain ⟨swift, next⟩ := pair
      simp only [compileAll, compile_of_ok h, outputs, List.filterMap_cons, output?, List.map_cons]
      have hrest := ih { s with scope := next }
      rw [outputs] at hrest
      rw [hrest]

/-- The sources that compile, joined by newlines, compile to all outputs and to the same scope. -/
theorem compileUnder_join_outputs (s : Session) (sources : List Text) :
    compileUnder s.library s.scope
        (Text.join [newline] ((outputs (s.compileAll sources).1).map Prod.fst)) =
      .ok (Text.concat ((outputs (s.compileAll sources).1).map Prod.snd),
        (s.compileAll sources).2.scope) := by
  induction sources generalizing s with
  | nil => exact compileUnder_nil s.library s.scope
  | cons source rest ih =>
    cases h : compileUnder s.library s.scope source with
    | error e =>
      simp only [compileAll, compile_of_error h, outputs, List.filterMap_cons, output?]
      exact ih s
    | ok pair =>
      obtain ⟨swift, next⟩ := pair
      simp only [compileAll, compile_of_ok h, outputs, List.filterMap_cons, output?, List.map_cons]
      exact compileUnder_join_cons h (ih { s with scope := next })

/-- Compiling in a session is compiling at once what the session accepted, and what it refused
leaves no trace. -/
theorem compileAll_eq_batch (lib : Library) (sources : List Text) :
    let run := (start lib).compileAll sources
    let accepted := outputs run.1
    ((Compiler.mk lib false).compile none
        (Text.join [newline] (accepted.map Prod.fst))).result =
      .ok (Text.concat (accepted.map Prod.snd)) ∧
    (start lib).compileAll (accepted.map Prod.fst) =
      (accepted.map fun pair => (pair.1, .ok pair.2), run.2) ∧
    ∀ later : List Text,
      ((start lib).compileAll (sources ++ later)).1 = run.1 ++ (run.2.compileAll later).1 ∧
      ((start lib).compileAll (accepted.map Prod.fst ++ later)).1 =
        (accepted.map fun pair => (pair.1, .ok pair.2)) ++ (run.2.compileAll later).1 := by
  intro run accepted
  have halone : (start lib).compileAll (accepted.map Prod.fst) =
      (accepted.map fun pair => (pair.1, .ok pair.2), run.2) := compileAll_outputs (start lib) sources
  refine ⟨?_, halone, ?_⟩
  · have hjoined : compileUnder lib (.ofLibrary lib) (Text.join [newline] (accepted.map Prod.fst)) =
        .ok (Text.concat (accepted.map Prod.snd), run.2.scope) :=
      compileUnder_join_outputs (start lib) sources
    have hbody : compileBody lib (Text.join [newline] (accepted.map Prod.fst)) =
        .ok (Text.concat (accepted.map Prod.snd)) := by
      rw [compileBody, hjoined]
      rfl
    rw [Compiler.compile, Compiler.result_body_none, hbody]
    rfl
  · intro later
    refine ⟨by rw [compileAll_append], ?_⟩
    rw [compileAll_append, halone]

end SwiftForms.Session
