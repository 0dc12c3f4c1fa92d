import SwiftForms.Command.Options
import SwiftForms.Compiler
import SwiftForms.Console
import SwiftForms.Engine.Setting
import SwiftForms.Library.Standard

/-!
# Running the command

The command as a function of its arguments, its standard input, the files around it and the engine for
its databases, to its exit code, what it writes to the standard output and the standard error, and the
files after it. Output is written only after everything else has succeeded, and then all of it to one
place. The cache is closed last, after the output has been written.
-/

namespace SwiftForms

/-- The ways in which the command ends. -/
inductive ExitCode where
  /-- All went well. -/
  | ok
  /-- The source did not compile. -/
  | compile
  /-- The arguments, a file or the cache could not be used. -/
  | usage
  /-- The expressions could not be written in Swift. -/
  | internal
  deriving DecidableEq, Repr

/-- The number of an exit code. -/
def ExitCode.number : ExitCode → Nat
  | .ok => 0
  | .compile => 1
  | .usage => 2
  | .internal => 3

/-- What the command is run with. -/
structure Request where
  /-- The arguments. -/
  args : List Text
  /-- The standard input. -/
  input : Text
  /-- The reason for which the standard input fails where it should end. -/
  inputFailure : Option Text
  /-- Whether nothing can be written to the standard output. -/
  outputFails : Bool
  /-- The files. -/
  files : Files
  /-- The time of day in reports. -/
  time : Text
  /-- The time that a compilation takes, in reports. -/
  duration : Text
  /-- The engine for databases. -/
  engine : Engine := .textual

/-- What the command does. -/
structure Response where
  /-- How it ends. -/
  code : ExitCode
  /-- What it writes to the standard output. -/
  stdout : Text
  /-- What it writes to the standard error. -/
  stderr : Text
  /-- The files after it. -/
  files : Files

namespace Command

/-- A line of an error. -/
def errorLine (message : Text) : Text :=
  "Error: " ++ message ++ "\n"

/-- The reports as the command shows them, if it is asked to. -/
def reports (r : Request) (o : Options) (log : List LogEntry) : Text :=
  if o.verbose then
    log.flatMap fun entry => "lisp2swift: " ++ r.time ++ " " ++ entry.text r.duration ++ "\n"
  else []

/-- An open database and the cache over it. -/
structure OpenCache where
  /-- The database. -/
  database : OpenDatabase
  /-- The cache as it is just after opening. -/
  cache : Cache

/-- The cache that the options ask for, if any, and the files after the attempt to open it. A database
with another layout is closed again. -/
def openCache (engine : Engine) (files : Files) (o : Options) :
    Files × Except StoreError (Option OpenCache) :=
  if o.cache.isEmpty then (files, .ok none)
  else
    match engine.connect files o.cache with
    | (after, .error e) => (after, .error e)
    | (after, .ok database) =>
      match database.tables.opened with
      | .error e => (database.close database.tables after, .error e)
      | .ok state => (after, .ok (some ⟨database, database.cache state⟩))

/-- The files after something has been done with the database of a cache and its tables. -/
def withTables (act : OpenDatabase → Database → Files → Files) (opened : Option OpenCache)
    (cache : Option Cache) (files : Files) : Files :=
  match opened, cache.bind fun c => c.store.tables? with
  | some o, some state => act o.database state files
  | _, _ => files

/-- The files after the engine has kept the tables of a cache. -/
def keepCache : Option OpenCache → Option Cache → Files → Files :=
  withTables OpenDatabase.save

/-- The files after a cache has been closed. -/
def closeCache : Option OpenCache → Option Cache → Files → Files :=
  withTables OpenDatabase.close

/-- The text of the chosen source, or the line that says why it cannot be read. -/
def sourceText (r : Request) : SourceChoice → Except Text Text
  | .text source => .ok source
  | .file path =>
    match r.files.read path with
    | .error e => .error ("Error reading file: " ++ e.message ++ "\n")
    | .ok contents => .ok contents
  | .input | .console =>
    match r.inputFailure with
    | some reason => .error ("Error reading stdin: " ++ reason ++ "\n")
    | none => .ok r.input

/-- The exit code for an error of a compilation. -/
def codeOf (e : CompileError) : ExitCode :=
  if e.isInternal then .internal else .compile

/-- Writes output to the place that the options ask for. -/
def deliver (r : Request) (o : Options) (files : Files) (stderr output : Text) : Response :=
  if o.output.isEmpty then
    if r.outputFails then ⟨.usage, [], stderr, files⟩ else ⟨.ok, output, stderr, files⟩
  else
    match files.write o.output output with
    | .error e => ⟨.usage, [], stderr ++ "Error writing output: " ++ e.message ++ "\n", files⟩
    | .ok written => ⟨.ok, [], stderr, written⟩

/-- Compiles a source with an open compiler, delivers what comes of it and closes the cache. -/
def compileSource (r : Request) (o : Options) (compiler : Compiler) (opened : Option OpenCache)
    (cache : Option Cache) (stderr source : Text) : Response :=
  let outcome : Outcome (Except CompileError Text) :=
    if o.outline then ⟨compiler.outline source, cache, []⟩ else compiler.compile cache source
  let files := keepCache opened outcome.cache r.files
  let shown := stderr ++ reports r o outcome.log
  let response : Response := match outcome.result with
    | .error e => ⟨codeOf e, [], shown ++ errorLine e.message, files⟩
    | .ok output => deliver r o files shown output
  { response with files := closeCache opened outcome.cache response.files }

/-- Runs the console with an open compiler. -/
def runConsole (r : Request) (compiler : Compiler) (files : Files) (stderr : Text) : Response :=
  let shown := Console.run compiler.library compiler.prologue r.input
  ⟨.ok, if r.outputFails then [] else shown, stderr, files⟩

/-- Runs the command for a chosen source. -/
def runChoice (r : Request) (o : Options) (choice : SourceChoice) : Response :=
  match openCache r.engine r.files o with
  | (files, .error e) => ⟨.usage, [], "Error opening cache: " ++ e.message ++ "\n", files⟩
  | (found, .ok opened) =>
    let outcome := Compiler.opened .standard (!o.bare) (opened.map OpenCache.cache)
    let files := keepCache opened outcome.cache found
    let closed := closeCache opened outcome.cache files
    let shown := reports r o outcome.log
    match outcome.result with
    | .error e => ⟨.usage, [], shown ++ "Error opening cache: " ++ e.message ++ "\n", closed⟩
    | .ok compiler =>
      match choice with
      | .console => runConsole r compiler closed shown
      | _ =>
        match sourceText { r with files := files } choice with
        | .error line => ⟨.usage, [], shown ++ line, closed⟩
        | .ok source =>
          compileSource { r with files := files } o compiler opened outcome.cache shown source

/-- Runs the command with options. -/
def runOptions (r : Request) (o : Options) : Response :=
  match o.choose with
  | .error fault => ⟨.usage, [], errorLine fault.message, r.files⟩
  | .ok choice => runChoice r o choice

/-- Runs the command. -/
def run (r : Request) : Response :=
  match Options.parse r.args with
  | .error e =>
    match e.message? with
    | none => ⟨.ok, [], Options.usage, r.files⟩
    | some message => ⟨.usage, [], message ++ "\n" ++ Options.usage, r.files⟩
  | .ok o => runOptions r o

end Command

end SwiftForms
