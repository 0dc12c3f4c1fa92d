import Std.Time.DateTime.Timestamp
import SwiftForms.Check
import SwiftForms.Command.Run

/-!
# The programs

The compiler and the checker as programs. Everything that is decided is decided elsewhere; what is
done here is to bring in the arguments, the standard input, the clock and the files that the
arguments name, and to carry out what the answer says. The checker is the program whose name ends in
`-check`.
-/

namespace SwiftForms.Program

/-- A text as the operating system takes it in names. -/
def nameOf (t : Text) : String :=
  String.ofList (t.map Glyph.shown)

/-- A text as bytes. -/
def bytesOf (t : Text) : ByteArray :=
  ⟨t.bytes.toArray⟩

/-- The text of bytes. -/
def textOf (bytes : ByteArray) : Text :=
  Text.ofBytes bytes.toList

/-- Everything that is left in a stream. -/
partial def readAll (stream : IO.FS.Stream) (read : ByteArray) : IO ByteArray := do
  let chunk ← stream.read 65536
  if chunk.isEmpty then return read else readAll stream (read ++ chunk)

/-- The files together with what stands on the disk at the end of a list of names. -/
def loadNode (files : Files) (names : List Text) : IO Files := do
  if (files.node? names).isSome then return files
  let path := (← IO.currentDir) / nameOf (Files.pathOf names)
  if ← path.isDir then return files.set names .directory
  try
    let contents ← IO.FS.readBinFile path
    return files.set names (.file (textOf contents))
  catch _ => return files

/-- The files together with what stands on the disk along a path. -/
def loadPath (files : Files) (path : Text) : IO Files := do
  let (loaded, _) ← (Files.namesOf path).foldlM (fun (known, here) name => do
    let next := Files.cleanStep here name
    return (← loadNode known next, next)) (files, Files.origin path)
  return loaded

/-- The files together with everything on the disk below a directory. -/
partial def loadBelow (files : Files) (directory : List Text) : IO Files := do
  let path := (← IO.currentDir) / nameOf (Files.pathOf directory)
  if !(← path.isDir) then return files
  (← path.readDir).foldlM (fun known entry => do
    let names := directory ++ [Text.ofString entry.fileName]
    loadBelow (← loadNode known names) names) files

/-- Puts the files that have changed on the disk, and removes those that are gone. -/
def saveChanges (before after : Files) : IO Unit := do
  for (names, node) in before.nodes do
    if node ≠ .directory && after.node? names = none then
      IO.FS.removeFile (nameOf (Files.pathOf names))
  for (names, node) in after.nodes do
    match node with
    | .directory => pure ()
    | .file contents =>
      if before.node? names ≠ some node then
        IO.FS.writeBinFile (nameOf (Files.pathOf names)) (bytesOf contents)

/-- A number with at least `width` digits. -/
def padded (width n : Nat) : Text :=
  List.replicate (width - (Text.ofNat n).length) (.char '0') ++ Text.ofNat n

/-- The time of day, to the microsecond. -/
def timeOfDay : IO Text := do
  let nanoseconds := ((← Std.Time.Timestamp.now).toNanosecondsSinceUnixEpoch).val.toNat
  let seconds := nanoseconds / 1000000000
  return padded 2 (seconds / 3600 % 24) ++ ":" ++ padded 2 (seconds / 60 % 60) ++ ":" ++
    padded 2 (seconds % 60) ++ "." ++ padded 6 (nanoseconds / 1000 % 1000000)

/-- Runs the command. If reports are shown, it is run once more to tell how long it took. -/
def timed (request : Request) (verbose : Bool) : IO Response := do
  let started ← IO.monoNanosNow
  let response ← IO.lazyPure fun _ => Command.run request
  let finished ← IO.monoNanosNow
  if verbose then
    let duration := Text.ofNat ((finished - started) / 1000) ++ "µs"
    return Command.run { request with time := ← timeOfDay, duration := duration }
  else return response

/-- The console at a terminal, which answers line by line. -/
partial def converse (input output : IO.FS.Stream) (console : Console) : IO Unit := do
  output.write (bytesOf (Piece.prompt (!console.pending.isEmpty)).text)
  output.flush
  let line := textOf (← input.getLine).toUTF8
  if line.isEmpty then output.write (bytesOf Piece.ending.text)
  else
    let gathered := Console.gather console.pending line
    if needsMore gathered then converse input output { console with pending := gathered }
    else
      let reply := Console.handle console.session console.prologue gathered
      for piece in reply.pieces do
        output.write (bytesOf piece.text)
      if !reply.leaves then
        converse input output { console with session := reply.session, pending := [] }

/-- Carries out what the command answers. -/
def carryOut (request : Request) (response : Response) : IO UInt32 := do
  (← IO.getStderr).write (bytesOf response.stderr)
  try
    saveChanges request.files response.files
  catch e =>
    (← IO.getStderr).write (bytesOf ("Error writing output: " ++ Text.ofString (toString e) ++ "\n"))
    return UInt32.ofNat ExitCode.usage.number
  try
    let output ← IO.getStdout
    output.write (bytesOf response.stdout)
    output.flush
    return UInt32.ofNat response.code.number
  catch _ =>
    return UInt32.ofNat (Command.run { request with outputFails := true }).code.number

/-- What the command is run with when there is nothing but arguments and files. -/
def bareRequest (args : List Text) (files : Files) : Request where
  args := args
  input := []
  inputFailure := none
  outputFails := false
  files := files
  time := []
  duration := []

/-- A request with what the standard input holds. -/
def withInput (request : Request) (stdin : IO.FS.Stream) : IO Request := do
  try
    return { request with input := textOf (← readAll stdin .empty) }
  catch e => return { request with inputFailure := Text.ofString (toString e) }

/-- Runs the console at a terminal. -/
def runTerminal (request : Request) (options : Options) (stdin : IO.FS.Stream) : IO UInt32 := do
  let response := Command.runChoice { request with outputFails := true } options .console
  if response.code = .ok then
    let prologue := (Compiler.mk .standard (!options.bare)).prologue
    let stdout ← IO.getStdout
    stdout.write (bytesOf Console.banner)
    converse stdin stdout ⟨.start .standard, prologue, []⟩
  carryOut request response

/-- Runs the command with arguments. -/
def runCommand (args : List Text) : IO UInt32 := do
  match Options.parse args with
  | .error _ =>
    let request := bareRequest args .empty
    carryOut request (Command.run request)
  | .ok options =>
    let paths := [options.file, options.output] ++ Connection.paths options.cache
    let request := bareRequest args (← paths.foldlM loadPath .empty)
    let stdin ← IO.getStdin
    let choice := options.choose.toOption
    if choice = some .input || choice = some .console then
      if ← stdin.isTty then runTerminal request options stdin
      else
        let full ← withInput request stdin
        carryOut full (← timed full options.verbose)
    else carryOut request (← timed request options.verbose)

/-- Runs the checker with arguments. -/
def runChecker (args : List Text) : IO UInt32 := do
  let files ← args.foldlM (fun known argument => do
    let along ← loadPath known argument
    if args.contains (Text.ofString "--dir") then loadBelow along (Files.cleanNames argument)
    else return along) .empty
  let response := Check.run files args
  (← IO.getStderr).write (bytesOf response.stderr)
  (← IO.getStdout).write (bytesOf response.stdout)
  return UInt32.ofNat response.code

end SwiftForms.Program

open SwiftForms in
/-- Runs the checker or the compiler, by the name of the program. -/
def main (args : List String) : IO UInt32 := do
  let texts := args.map Text.ofString
  let name := (← IO.appPath).fileStem.getD ""
  if name.endsWith "-check" then Program.runChecker texts else Program.runCommand texts
