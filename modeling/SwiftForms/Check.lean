import SwiftForms.Compiler
import SwiftForms.Files
import SwiftForms.Library.Standard
import SwiftForms.Text.Classes

/-!
# Checking files

The checker compiles source files and says for each whether it did as expected. A line of a file that
starts with `# EXPECTED:` is a directive and no part of the source; if one of them goes on with
`Error`, the file is expected not to compile.
-/

namespace SwiftForms

/-- What became of a checked file. -/
structure CheckResult where
  /-- Why it could not be read or did not compile. -/
  problem : Option Text
  /-- Whether it is expected not to compile. -/
  expectsError : Bool
  deriving DecidableEq, Repr

/-- Whether a file did as expected. -/
def CheckResult.isOk (r : CheckResult) : Bool :=
  r.problem.isSome == r.expectsError

/-- How many files ended in which way. -/
structure CheckCounts where
  /-- The files that compiled as expected. -/
  passed : Nat
  /-- The files that did not compile, as expected. -/
  expectedErrors : Nat
  /-- The files that did not do as expected. -/
  failed : Nat
  deriving DecidableEq, Repr, Inhabited

/-- What the checker does. -/
structure CheckResponse where
  /-- Its exit code. -/
  code : Nat
  /-- What it writes to the standard output. -/
  stdout : Text
  /-- What it writes to the standard error. -/
  stderr : Text
  deriving DecidableEq, Repr

namespace Check

/-- What a directive starts with. -/
def directive : Text :=
  "# EXPECTED:"

/-- Whether a line is a directive that expects an error. -/
def expectsError (line : Text) : Bool :=
  match Text.dropStart? directive line with
  | some rest => rest.trim.startsWith "Error"
  | none => false

/-- The source in the lines of a file. -/
def sourceOf (lines : List Text) : Text :=
  Text.join "\n" (lines.filter fun line => !line.startsWith directive)

/-- Checks the contents of a file. -/
def checkContents (contents : Text) : CheckResult :=
  let problem := match compileBody .standard (sourceOf contents.lines) with
    | .error e => some e.message
    | .ok _ => none
  ⟨problem, contents.lines.any expectsError⟩

/-- Checks the file at a path. -/
def checkFile (files : Files) (path : Text) : CheckResult :=
  match files.read path with
  | .error e => ⟨some e.message, false⟩
  | .ok contents => checkContents contents

/-- What is said of a checked file. -/
def report (path : Text) (r : CheckResult) : Text :=
  match r.problem, r.expectsError with
  | some problem, true => "OK   " ++ path ++ " (expected error: " ++ problem ++ ")\n"
  | none, false => "OK   " ++ path ++ "\n"
  | some problem, false => "FAIL " ++ path ++ "\n     " ++ problem ++ "\n"
  | none, true => "FAIL " ++ path ++ "\n     expected an error, compiled cleanly\n"

/-- The counts with one more file. -/
def count (c : CheckCounts) (r : CheckResult) : CheckCounts :=
  if !r.isOk then { c with failed := c.failed + 1 }
  else if r.expectsError then { c with expectedErrors := c.expectedErrors + 1 }
  else { c with passed := c.passed + 1 }

/-- The counts as the checker shows them. -/
def summary (c : CheckCounts) (total : Nat) : Text :=
  "\n--- Summary ---\n" ++
  "Passed:          " ++ Text.ofNat c.passed ++ "\n" ++
  "Expected errors: " ++ Text.ofNat c.expectedErrors ++ "\n" ++
  "Failed:          " ++ Text.ofNat c.failed ++ "\n" ++
  "Total:           " ++ Text.ofNat total ++ "\n"

/-- The paths of the files to check, or the line that says what is wrong with the arguments. -/
def paths (files : Files) : List Text → Except Text (List Text)
  | [] => .ok []
  | argument :: rest =>
    if argument = "--dir" then
      match rest with
      | [] => .error "Error: --dir requires an argument\n"
      | directory :: more =>
        match files.search directory ".lisp" with
        | .error e => .error ("Error scanning directory " ++ directory ++ ": " ++ e.message ++ "\n")
        | .ok found => (paths files more).map fun others => found ++ others
    else (paths files rest).map fun others => argument :: others

/-- Runs the checker. -/
def run (files : Files) (args : List Text) : CheckResponse :=
  if args.isEmpty then ⟨2, [], "Usage: lisp2swift-check [--dir DIR] FILE [FILE...]\n"⟩
  else
    match paths files args with
    | .error line => ⟨2, [], line⟩
    | .ok [] => ⟨2, [], "No .lisp files found\n"⟩
    | .ok found =>
      let results := found.map (checkFile files)
      let counts := results.foldl count default
      let reports := (found.zip results).flatMap fun (path, r) => report path r
      ⟨if counts.failed = 0 then 0 else 1, reports ++ summary counts found.length, []⟩

end Check

end SwiftForms
