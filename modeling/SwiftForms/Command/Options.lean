import SwiftForms.Command.Flags

/-!
# Options of the command

What the arguments of the command ask for: a source, where its Swift text goes, and how it is
compiled. The source is a text, a file, the words after the flags, or the standard input; at most one
may be chosen, and none together with the console.
-/

namespace SwiftForms

/-- What the arguments ask for. -/
structure Options where
  /-- The source text, if not empty. -/
  source : Text
  /-- The source file, if not empty. -/
  file : Text
  /-- The file for the output, if not empty. -/
  output : Text
  /-- The database file of the cache, if not empty. -/
  cache : Text
  /-- Whether expressions are outlined instead of written in Swift. -/
  outline : Bool
  /-- Whether the text of the library is left out. -/
  bare : Bool
  /-- Whether the compiler's reports are shown. -/
  verbose : Bool
  /-- Whether the console is started. -/
  console : Bool
  /-- The words after the flags. -/
  words : List Text
  deriving DecidableEq, Repr

/-- Where the source comes from. -/
inductive SourceChoice where
  /-- A text. -/
  | text (source : Text)
  /-- A file. -/
  | file (path : Text)
  /-- The standard input. -/
  | input
  /-- The console. -/
  | console
  deriving DecidableEq, Repr

/-- The causes for which no source can be chosen. -/
inductive ChoiceFault where
  /-- More than one source is given. -/
  | severalSources
  /-- A source is given together with the console. -/
  | sourceForConsole
  deriving DecidableEq, Repr

/-- The message of a fault. -/
def ChoiceFault.message : ChoiceFault → Text
  | .severalSources => "use only one of -e, -f or positional source"
  | .sourceForConsole => "-repl takes no source"

namespace Options

/-- The flags of the command. -/
def flags : List Flag :=
  [⟨"e", true, "Compile source string"⟩,
   ⟨"f", true, "Compile source file"⟩,
   ⟨"o", true, "Write Swift output to file instead of stdout"⟩,
   ⟨"cache", true, "SQLite compilation cache path (disabled when empty)"⟩,
   ⟨"ast", false, "Print the expression tree instead of Swift"⟩,
   ⟨"no-prologue", false, "Omit the Swift runtime prologue"⟩,
   ⟨"v", false, "Log cache and timing details to stderr"⟩,
   ⟨"repl", false, "Start the interactive REPL"⟩]

/-- How to use the command. -/
def usage : Text :=
  "usage: lisp2swift [flags] [source...]\n" ++ Flag.describeAll flags

/-- The options that arguments set. -/
def parse (args : List Text) : Except FlagError Options := do
  let (settings, words) ← Flag.parse flags ⟨.empty, .empty⟩ args
  return {
    source := settings.text "e"
    file := settings.text "f"
    output := settings.text "o"
    cache := settings.text "cache"
    outline := settings.isOn "ast"
    bare := settings.isOn "no-prologue"
    verbose := settings.isOn "v"
    console := settings.isOn "repl"
    words := words }

/-- The sources that are given. -/
def given (o : Options) : List SourceChoice :=
  (if o.source.isEmpty then [] else [.text o.source]) ++
  (if o.file.isEmpty then [] else [.file o.file]) ++
  (if o.words.isEmpty then [] else [.text (Text.join " " o.words)])

/-- The source to compile. -/
def choose (o : Options) : Except ChoiceFault SourceChoice :=
  match o.given with
  | [] => .ok (if o.console then .console else .input)
  | [choice] => if o.console then .error .sourceForConsole else .ok choice
  | _ => .error .severalSources

end Options

end SwiftForms
