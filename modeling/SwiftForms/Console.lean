import SwiftForms.Session
import SwiftForms.Text.Classes

/-!
# The console

The console compiles what it is given line by line. Lines are gathered until they hold complete
forms; then the gathered input is a command, if it starts with a colon, or a source that is compiled
in the console's session. What the console shows is a list of pieces, so that its prompts can be told
from its answers.
-/

namespace SwiftForms

/-- Whether an input must be continued: it is no command, and it ends inside an open string, list or
vector. -/
def needsMore (input : Text) : Bool :=
  if input.trim.startsWith ":" then false
  else
    match read input with
    | .error e => e.fault.isIncomplete
    | .ok _ => false

/-- A piece of what the console shows. -/
inductive Piece where
  /-- The prompt for a line, which may continue an input. -/
  | prompt (continues : Bool)
  /-- The Swift text of a source. -/
  | swift (text : Text)
  /-- A source that did not compile. -/
  | failure (error : CompileError)
  /-- The answer to a command. -/
  | answer (text : Text)
  /-- The end of the input. -/
  | ending
  deriving Repr

/-- The text of a piece. -/
def Piece.text : Piece → Text
  | .prompt false => ">>> "
  | .prompt true => "... "
  | .swift text => text
  | .failure error => "Error: " ++ error.message ++ "\n"
  | .answer text => text
  | .ending => "\n"

/-- The commands of the console. -/
inductive ConsoleCommand where
  /-- Leave the console. -/
  | quit
  /-- List the commands. -/
  | help
  /-- List the declared functions. -/
  | scope
  /-- Show the text in front of programs. -/
  | prologue
  /-- Forget the declared functions. -/
  | reset
  /-- No command. -/
  | unknown (word : Text)
  deriving DecidableEq, Repr

/-- The command that a word names. -/
def ConsoleCommand.ofWord (word : Text) : ConsoleCommand :=
  if word = ":q" ∨ word = ":quit" ∨ word = ":exit" then .quit
  else if word = ":help" ∨ word = ":h" then .help
  else if word = ":scope" then .scope
  else if word = ":prologue" then .prologue
  else if word = ":reset" then .reset
  else .unknown word

/-- A session and the lines gathered so far. -/
structure Console where
  /-- The session. -/
  session : Session
  /-- The text in front of programs. -/
  prologue : Text
  /-- The lines gathered so far. -/
  pending : Text

/-- What the console does with an input: the pieces it shows, its session, and whether it goes on. -/
structure Reply where
  /-- The pieces it shows. -/
  pieces : List Piece
  /-- The session after it. -/
  session : Session
  /-- Whether the console is left. -/
  leaves : Bool

namespace Console

/-- What is shown before the first prompt. -/
def banner : Text :=
  "lisp2swift REPL (Ctrl+D to exit, :help for commands)\n\n"

/-- The list of commands. -/
def helpText : Text :=
  "  :scope     list functions declared in this session\n" ++
  "  :prologue  print the Swift runtime prologue\n" ++
  "  :reset     forget every declaration\n" ++
  "  :quit      exit\n"

/-- The list of declared functions. -/
def scopeText (s : Session) : Text :=
  if s.declared.isEmpty then "(no declarations)\n"
  else s.declared.flatMap fun name => name ++ [.char '\n']

/-- Obeys a command. -/
def obey (session : Session) (prologue : Text) : ConsoleCommand → Reply
  | .quit => ⟨[], session, true⟩
  | .help => ⟨[.answer helpText], session, false⟩
  | .scope => ⟨[.answer (scopeText session)], session, false⟩
  | .prologue => ⟨[.answer prologue], session, false⟩
  | .reset => ⟨[.answer "scope reset\n"], session.reset, false⟩
  | .unknown word => ⟨[.answer ("Unknown command: " ++ word ++ " (try :help)\n")], session, false⟩

/-- Handles a complete input. -/
def handle (session : Session) (prologue input : Text) : Reply :=
  match input.trim with
  | [] => ⟨[], session, false⟩
  | .char ':' :: rest =>
    obey session prologue (.ofWord ((Text.fields (.char ':' :: rest)).headD []))
  | _ =>
    match session.compile input with
    | (.ok swift, next) => ⟨[.swift swift], next, false⟩
    | (.error e, next) => ⟨[.failure e], next, false⟩

/-- The gathered lines with one more. The ends of lines are cut off. -/
def gather (pending line : Text) : Text :=
  let cut := line.dropEndWhile fun g => g = .char '\r' || g = .char '\n'
  if pending.isEmpty then cut else pending ++ .char '\n' :: cut

/-- What the console shows after its banner, for complete lines and the rest after the last one. -/
def transcript (c : Console) : List Text → (last : Text) → List Piece
  | [], last =>
    let prompt := Piece.prompt (!c.pending.isEmpty)
    if last.isEmpty then
      let pieces := if c.pending.isEmpty then [] else (handle c.session c.prologue c.pending).pieces
      prompt :: (pieces ++ [.ending])
    else prompt :: (handle c.session c.prologue (gather c.pending last)).pieces
  | line :: lines, last =>
    let prompt := Piece.prompt (!c.pending.isEmpty)
    let input := gather c.pending line
    if needsMore input then prompt :: transcript { c with pending := input } lines last
    else
      let reply := handle c.session c.prologue input
      if reply.leaves then prompt :: reply.pieces
      else
        prompt :: (reply.pieces ++ transcript ⟨reply.session, c.prologue, []⟩ lines last)

/-- The complete lines of an input, and the rest after the last newline. -/
def splitInput (input : Text) : List Text × Text :=
  (input.lines.dropLast, input.lines.getLastD [])

/-- What the console shows for an input, from its banner on. -/
def run (lib : Library) (prologue input : Text) : Text :=
  let (lines, last) := splitInput input
  banner ++ (transcript ⟨.start lib, prologue, []⟩ lines last).flatMap Piece.text

end Console

end SwiftForms
