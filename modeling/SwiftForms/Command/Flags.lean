import SwiftForms.Dict
import SwiftForms.Text.Quoted

/-!
# Command-line flags

Flags come before the other arguments, with one dash or two. A flag for a text takes what follows an
equals sign, or the next argument; a switch is on unless an equals sign is followed by a word for
off. The first argument that is no flag ends the flags, and so does an argument of two dashes, which
is dropped.
-/

namespace SwiftForms

/-- A flag that a command knows. -/
structure Flag where
  /-- Its name, without dashes. -/
  name : Text
  /-- Whether it takes a text; otherwise it is a switch. -/
  takesText : Bool
  /-- What it is for. -/
  purpose : Text
  deriving DecidableEq, Repr

/-- The causes for which arguments cannot be understood. -/
inductive FlagError where
  /-- An argument with dashes but no name. -/
  | badSyntax (argument : Text)
  /-- A flag that the command does not know. -/
  | undefined (name : Text)
  /-- A flag without the text that it takes. -/
  | needsArgument (name : Text)
  /-- A switch with a word that is neither on nor off. -/
  | invalidSwitch (value name : Text)
  /-- No error: the user asks for help. -/
  | help
  deriving DecidableEq, Repr

/-- The message of an error, if it has one. -/
def FlagError.message? : FlagError → Option Text
  | .badSyntax argument => some ("bad flag syntax: " ++ argument)
  | .undefined name => some ("flag provided but not defined: -" ++ name)
  | .needsArgument name => some ("flag needs an argument: -" ++ name)
  | .invalidSwitch value name =>
    some ("invalid boolean value " ++ value.quoted ++ " for -" ++ name ++ ": parse error")
  | .help => none

/-- The flags that were given. -/
structure Settings where
  /-- The texts that were given. -/
  texts : Dict Text
  /-- The switches that were given. -/
  switches : Dict Bool
  deriving Repr, Inhabited

namespace Settings

/-- The text given for a flag, empty if there is none. -/
def text (s : Settings) (name : Text) : Text :=
  (s.texts.find? name).getD []

/-- Whether a switch is on. -/
def isOn (s : Settings) (name : Text) : Bool :=
  (s.switches.find? name).getD false

end Settings

namespace Flag

/-- The words for on. -/
def onWords : List Text :=
  ["1", "t", "T", "TRUE", "true", "True"].map Text.ofString

/-- The words for off. -/
def offWords : List Text :=
  ["0", "f", "F", "FALSE", "false", "False"].map Text.ofString

/-- Whether a word means on or off. -/
def switchOf? (word : Text) : Option Bool :=
  if onWords.contains word then some true
  else if offWords.contains word then some false
  else none

/-- What an argument says, with its dashes read. -/
inductive Argument where
  /-- The argument is none of the flags. -/
  | plain
  /-- The argument ends the flags. -/
  | terminator
  /-- A flag, with the value after an equals sign. -/
  | named (name : Text) (value : Option Text)
  /-- Dashes without a name. -/
  | malformed
  deriving DecidableEq, Repr

/-- A name and the value after the first equals sign that does not start it. -/
def splitValue : Text → Text × Option Text
  | [] => ([], none)
  | g :: rest =>
    let (name, value) := rest.span fun h => h ≠ .char '='
    match value with
    | [] => (g :: name, none)
    | _ :: given => (g :: name, some given)

/-- A flag from its text after the dashes. -/
def Argument.ofName : Text → Argument
  | [] => .malformed
  | g :: rest =>
    if g = .char '-' ∨ g = .char '=' then .malformed
    else
      let (name, value) := splitValue (g :: rest)
      .named name value

/-- What an argument says. -/
def Argument.of : Text → Argument
  | [.char '-', .char '-'] => .terminator
  | .char '-' :: .char '-' :: rest => .ofName rest
  | .char '-' :: g :: rest => .ofName (g :: rest)
  | _ => .plain

/-- Reads flags from the front of arguments: what they set, and the other arguments. -/
def parse (flags : List Flag) (settings : Settings) : List Text → Except FlagError (Settings × List Text)
  | [] => .ok (settings, [])
  | argument :: rest =>
    match Argument.of argument with
    | .plain => .ok (settings, argument :: rest)
    | .terminator => .ok (settings, rest)
    | .malformed => .error (.badSyntax argument)
    | .named name value =>
      match flags.find? fun flag => flag.name = name with
      | none => .error (if name = "help" ∨ name = "h" then .help else .undefined name)
      | some flag =>
        if flag.takesText then
          match value, rest with
          | some given, rest =>
            parse flags { settings with texts := settings.texts.insert name given } rest
          | none, given :: more =>
            parse flags { settings with texts := settings.texts.insert name given } more
          | none, [] => .error (.needsArgument name)
        else
          match value with
          | none =>
            parse flags { settings with switches := settings.switches.insert name true } rest
          | some word =>
            match switchOf? word with
            | none => .error (.invalidSwitch word name)
            | some on =>
              parse flags { settings with switches := settings.switches.insert name on } rest

/-- What is said on a flag: its name, what it takes and what it is for. A switch with a name of one
letter is followed by its purpose on the same line. -/
def describe (flag : Flag) : Text :=
  let head := "  -" ++ flag.name ++ if flag.takesText then Text.ofString " string" else []
  head ++ (if head.byteSize ≤ 4 then Text.ofString "\t" else Text.ofString "\n    \t") ++
    flag.purpose ++ "\n"

/-- What is said on all flags, in the order of their names. -/
def describeAll (flags : List Flag) : Text :=
  (flags.mergeSort fun f g => Text.le f.name g.name).flatMap describe

end Flag

end SwiftForms
