import SwiftForms.Text.Basic

/-!
# Swift statements

The statements that programs are written in: expressions, returns, function declarations,
conditionals and blocks that bind variables. A statement is laid out as lines; the lines of a body
are indented by four spaces more than the line that opens it. A text that itself runs over several
lines counts as that many lines, and each of them is indented.
-/

namespace SwiftForms

/-- A Swift statement. The values in it are Swift texts. -/
inductive Stmt where
  /-- An expression. -/
  | value (text : Text)
  /-- An empty line. -/
  | blank
  /-- The end of a function with its value. -/
  | ret (text : Text)
  /-- A function declaration. -/
  | function (name : Text) (params : List Text) (body : List Stmt)
  /-- A conditional with one branch. -/
  | ifThen (test : Text) (yes : List Stmt)
  /-- A conditional with two branches. -/
  | ifElse (test : Text) (yes no : List Stmt)
  /-- A block that binds variables for its body. -/
  | block (bindings : List (Text × Text)) (body : List Stmt)
  deriving Repr, Inhabited

namespace Stmt

/-- The type of every variable, parameter and result. -/
def valueType : Text :=
  "Value"

/-- What a line inside a body starts with. -/
def indentation : Text :=
  "    "

/-- Lines indented one level. -/
def indent (lines : List Text) : List Text :=
  lines.map fun line => indentation ++ line

/-- A parameter in a function declaration. -/
def param (name : Text) : Text :=
  "_ " ++ name ++ ": " ++ valueType

/-- The line that opens a function declaration. -/
def functionHeader (name : Text) (params : List Text) : Text :=
  "func " ++ name ++ "(" ++ Text.join ", " (params.map param) ++ ") -> " ++ valueType ++ " \x7b"

/-- The line that opens a conditional. -/
def ifHeader (test : Text) : Text :=
  "if (truthy(" ++ test ++ ")) \x7b"

/-- The line that binds a variable. -/
def bindingLine (binding : Text × Text) : Text :=
  "let " ++ binding.1 ++ ": " ++ valueType ++ " = " ++ binding.2

/-- The line before a function declaration, which lets its result go unused. -/
def attributeLine : Text :=
  "@discardableResult"

/-- The line that opens a block. -/
def blockHeader : Text :=
  "do \x7b"

/-- The line between the branches of a conditional. -/
def elseLine : Text :=
  "\x7d else \x7b"

/-- The line that closes a body. -/
def closingLine : Text :=
  "\x7d"

mutual

/-- The lines of a statement. -/
def lines : Stmt → List Text
  | .value text => text.lines
  | .blank => [[]]
  | .ret text => Text.lines ("return " ++ text)
  | .function name params body =>
    attributeLine :: (functionHeader name params).lines ++ indent (allLines body) ++ [closingLine]
  | .ifThen test yes => (ifHeader test).lines ++ indent (allLines yes) ++ [closingLine]
  | .ifElse test yes no =>
    (ifHeader test).lines ++ indent (allLines yes) ++ elseLine :: indent (allLines no) ++ [closingLine]
  | .block bindings body =>
    blockHeader :: indent (bindings.flatMap (fun b => (bindingLine b).lines) ++ allLines body) ++
      [closingLine]

/-- The lines of statements one after another. -/
def allLines : List Stmt → List Text
  | [] => []
  | statement :: rest => statement.lines ++ allLines rest

end

/-- The text of statements, each line closed by a newline. -/
def print (statements : List Stmt) : Text :=
  (allLines statements).flatMap fun line => line ++ [.char '\n']

end Stmt

end SwiftForms
