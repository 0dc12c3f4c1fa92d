import SwiftForms.Command.Run
import SwiftForms.Proofs.Engine.Footprint

/-!
# The course of a run

The command opens a compiler, reads the one source that its arguments choose, calls the compiler on it,
delivers the output and closes the cache, in this order. Each step is given here by what it needs and what
it leaves: which text the source has, what comes of the attempt to open the compiler, and that but for the
delivery no file is changed that is not one of the cache, if the engine for databases is confined to them.
-/

namespace SwiftForms

namespace Options

variable {o : Options} {choice : SourceChoice}

/-- No source is given. -/
theorem given_eq_nil_iff : o.given = [] ↔ o.source = [] ∧ o.file = [] ∧ o.words = [] := by
  by_cases hsource : o.source = [] <;> by_cases hfile : o.file = [] <;>
    by_cases hwords : o.words = [] <;> simp [given, hsource, hfile, hwords]

/-- One source is given: a text, a file, or the words after the flags. -/
theorem given_eq_singleton_iff :
    o.given = [choice] ↔
      o.source ≠ [] ∧ o.file = [] ∧ o.words = [] ∧ .text o.source = choice ∨
      o.source = [] ∧ o.file ≠ [] ∧ o.words = [] ∧ .file o.file = choice ∨
      o.source = [] ∧ o.file = [] ∧ o.words ≠ [] ∧ .text (Text.join " " o.words) = choice := by
  by_cases hsource : o.source = [] <;> by_cases hfile : o.file = [] <;>
    by_cases hwords : o.words = [] <;> simp [given, hsource, hfile, hwords]

/-- The one source that is given is chosen, and if none is given the console or the standard input. -/
theorem choose_eq_ok_iff :
    o.choose = .ok choice ↔
      o.console = false ∧ o.given = [choice] ∨
      o.given = [] ∧ (if o.console then .console else .input) = choice := by
  unfold choose
  rcases o.given with - | ⟨first, - | ⟨second, rest⟩⟩
  · simp
  · cases o.console <;> simp
  · simp

end Options

namespace Command

open Fallible Files Options

/-! ## The source -/

/-- The arguments choose one source, and `source` is its text if files are read among `files`. -/
inductive Supplies (r : Request) (o : Options) (files : Files) : Text → Prop where
  /-- The source is a text. -/
  | text (hconsole : o.console = false) (hsource : o.source ≠ []) (hfile : o.file = [])
      (hwords : o.words = []) : Supplies r o files o.source
  /-- The source is in a file. -/
  | file {source : Text} (hconsole : o.console = false) (hsource : o.source = [])
      (hfile : o.file ≠ []) (hwords : o.words = []) (hread : files.read o.file = .ok source) :
      Supplies r o files source
  /-- The source is the words after the flags. -/
  | words (hconsole : o.console = false) (hsource : o.source = []) (hfile : o.file = [])
      (hwords : o.words ≠ []) : Supplies r o files (Text.join " " o.words)
  /-- The source is the standard input. -/
  | input (hconsole : o.console = false) (hsource : o.source = []) (hfile : o.file = [])
      (hwords : o.words = []) (hread : r.inputFailure = none) : Supplies r o files r.input

/-- A source that can be read is one that is chosen, and not the console. -/
theorem supplies_iff {r : Request} {o : Options} {files : Files} {source : Text} :
    Supplies r o files source ↔
      ∃ choice, o.choose = .ok choice ∧ choice ≠ .console ∧
        sourceText { r with files := files } choice = .ok source := by
  constructor
  · rintro (⟨hconsole, hsource, hfile, hwords⟩ | ⟨hconsole, hsource, hfile, hwords, hread⟩ |
      ⟨hconsole, hsource, hfile, hwords⟩ | ⟨hconsole, hsource, hfile, hwords, hread⟩)
    · exact ⟨.text o.source, by simp [Options.choose, Options.given, *], by simp, rfl⟩
    · exact ⟨.file o.file, by simp [Options.choose, Options.given, *], by simp,
        by simp [sourceText, hread]⟩
    · exact ⟨.text (Text.join " " o.words), by simp [Options.choose, Options.given, *], by simp, rfl⟩
    · exact ⟨.input, by simp [Options.choose, Options.given, *], by simp, by simp [sourceText, hread]⟩
  · rintro ⟨choice, hchoice, hplain, htext⟩
    rcases choose_eq_ok_iff.mp hchoice with ⟨hconsole, hgiven⟩ | ⟨hgiven, hinput⟩
    · rcases given_eq_singleton_iff.mp hgiven with ⟨hsource, hfile, hwords, rfl⟩ |
        ⟨hsource, hfile, hwords, rfl⟩ | ⟨hsource, hfile, hwords, rfl⟩
      · cases htext
        exact .text hconsole hsource hfile hwords
      · refine .file hconsole hsource hfile hwords ?_
        cases hread : files.read o.file with
        | error e => simp [sourceText, hread] at htext
        | ok contents => simpa [sourceText, hread] using htext
      · cases htext
        exact .words hconsole hsource hfile hwords
    · obtain ⟨hsource, hfile, hwords⟩ := given_eq_nil_iff.mp hgiven
      cases hconsole : o.console with
      | true =>
        rw [hconsole] at hinput
        exact absurd hinput.symm hplain
      | false =>
        rw [hconsole] at hinput
        cases hinput
        cases hfailure : r.inputFailure with
        | some reason => simp [sourceText, hfailure] at htext
        | none =>
          have hsame : r.input = source := by simpa [sourceText, hfailure] using htext
          exact hsame ▸ .input hconsole hsource hfile hwords hfailure

/-- There is one text that a source has. -/
theorem Supplies.unique {r : Request} {o : Options} {files : Files} {source other : Text}
    (h : Supplies r o files source) (h' : Supplies r o files other) : source = other := by
  obtain ⟨choice, hchoice, -, htext⟩ := supplies_iff.mp h
  obtain ⟨choice', hchoice', -, htext'⟩ := supplies_iff.mp h'
  rw [hchoice] at hchoice'
  cases hchoice'
  rw [htext] at htext'
  cases htext'
  rfl

/-! ## The compiler -/

/-- What comes of an attempt to open a compiler. -/
structure Opening where
  /-- The compiler, unless the attempt failed. -/
  result : Except StoreError Compiler
  /-- The database under the cache, if there is one. -/
  database : Option OpenCache
  /-- The cache, if there is one. -/
  cache : Option Cache
  /-- What was reported. -/
  log : List LogEntry
  /-- The files after the attempt. -/
  files : Files

/-- The attempt to open the compiler and the cache that options ask for. -/
def opening (r : Request) (o : Options) : Opening :=
  match openCache r.engine r.files o with
  | (found, .error e) => ⟨.error e, none, none, [], found⟩
  | (found, .ok database) =>
    let outcome := Compiler.opened .standard (!o.bare) (database.map OpenCache.cache)
    ⟨outcome.result, database, outcome.cache, outcome.log, keepCache database outcome.cache found⟩

/-- The call of a compiler on a source: for its Swift text, or for the outlines of its expressions. -/
def emission (o : Options) (compiler : Compiler) (cache : Option Cache) (source : Text) :
    Outcome (Except CompileError Text) :=
  if o.outline then ⟨compiler.outline source, cache, []⟩ else compiler.compile cache source

variable {r : Request} {o : Options} {compiler : Compiler} {choice : SourceChoice}

/-- The files after the cache has been closed at once. -/
def Opening.closed (opening : Opening) : Files :=
  closeCache opening.database opening.cache opening.files

/-- The files after the call of a compiler, with the cache kept. -/
def kept (r : Request) (o : Options) (compiler : Compiler) (source : Text) : Files :=
  keepCache (opening r o).database (emission o compiler (opening r o).cache source).cache
    (opening r o).files

/-- A response after which the cache is closed, with the tables that the call of a compiler left. -/
def closing (r : Request) (o : Options) (compiler : Compiler) (source : Text) (response : Response) :
    Response :=
  let state := (emission o compiler (opening r o).cache source).cache
  { response with files := closeCache (opening r o).database state response.files }

end Command

end SwiftForms
