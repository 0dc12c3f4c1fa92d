import SwiftForms.Engine.Sql.Token

/-!
# Statements of SQL

A text of SQL is a list of statements with semicolons between them. Of the statements only pragmas are
read in full; the others are told apart by their first keyword. A statement that cannot be read is
reported at the first token that no statement could have at its place.
-/

namespace SwiftForms.Sql

/-- The causes for which a statement cannot be read. -/
inductive StatementFault where
  /-- The text ends inside the statement. -/
  | incomplete
  /-- A token has no place in the statement. -/
  | unexpected (text : Text)
  /-- A token is malformed. -/
  | malformed (text : Text)
  deriving DecidableEq, Repr

/-- The message of a fault. -/
def StatementFault.message : StatementFault → Text
  | .incomplete => "incomplete input"
  | .unexpected text => "near \"" ++ text ++ "\": syntax error"
  | .malformed text => "unrecognized token: \"" ++ text ++ "\""

/-- A pragma: the name of a setting, as a rule of one database of the connection, and a value. -/
structure Pragma where
  /-- The name of the database, as it is written. -/
  scope : Option Token
  /-- The name of the setting. -/
  name : Text
  /-- The value, without quotes and with a minus sign if there is one. -/
  argument : Option Text
  deriving DecidableEq, Repr

/-- A statement. -/
inductive Statement where
  /-- A pragma. -/
  | pragma (contents : Pragma)
  /-- Any other statement. -/
  | other
  deriving DecidableEq, Repr

/-- The keywords that cannot be names. -/
def reservedWords : List Text :=
  (["add", "all", "alter", "and", "as", "autoincrement", "between", "case", "check", "collate",
    "commit", "constraint", "create", "default", "deferrable", "delete", "distinct", "drop", "else",
    "escape", "except", "exists", "foreign", "from", "group", "having", "in", "index", "insert",
    "intersect", "into", "is", "isnull", "join", "limit", "not", "nothing", "notnull", "null", "on",
    "or", "order", "primary", "references", "returning", "select", "set", "table", "then", "to",
    "transaction", "union", "unique", "update", "using", "values", "when", "where"]
    : List String).map Text.ofString

/-- The keywords that cannot be names and yet can be the value of a pragma. -/
def reservedValues : List Text :=
  (["default", "delete", "on"] : List String).map Text.ofString

/-- The keywords that statements other than pragmas start with. -/
def statementWords : List Text :=
  (["alter", "analyze", "attach", "begin", "commit", "create", "delete", "detach", "drop", "end",
    "explain", "insert", "reindex", "release", "replace", "rollback", "savepoint", "select",
    "update", "vacuum", "values", "with"] : List String).map Text.ofString

namespace Token

/-- Whether a token can be a name. -/
def isName (token : Token) : Bool :=
  match token.kind with
  | .name | .string => true
  | .word => !reservedWords.contains token.text.lowered
  | _ => false

/-- Whether a token can be the value of a pragma on its own. -/
def isValue (token : Token) : Bool :=
  token.isName || token.kind = .number ||
    (token.kind = .word && reservedValues.contains token.text.lowered)

/-- The fault of a token that has no place where it stands. -/
def fault (token : Token) : StatementFault :=
  if token.kind = .malformed then .malformed token.text else .unexpected token.text

end Token

namespace Pragma

/-- The value of a pragma at the start of tokens, and the tokens after it. The fault `short` is that of
a statement that ends too early. -/
def readArgument (short : StatementFault) :
    List Token → Except StatementFault (Text × List Token)
  | [] => .error short
  | token :: rest =>
    if token.isValue then .ok (token.value, rest)
    else if token.isMark "+" ∨ token.isMark "-" then
      match rest with
      | [] => .error short
      | number :: more =>
        if number.kind = .number then
          .ok (if token.isMark "-" then token.text ++ number.text else number.text, more)
        else .error number.fault
    else .error token.fault

/-- The end of a statement. -/
def readEnd : List Token → Except StatementFault Unit
  | [] => .ok ()
  | token :: _ => .error token.fault

/-- The value of a pragma, if one follows its name. -/
def readSetting (short : StatementFault) : List Token → Except StatementFault (Option Text)
  | [] => .ok none
  | token :: rest =>
    if token.isMark "=" ∨ token.isMark "==" then do
      let (argument, more) ← readArgument short rest
      readEnd more
      return some argument
    else if token.isMark "(" then do
      let (argument, more) ← readArgument short rest
      match more with
      | [] => .error short
      | closing :: after =>
        if closing.isMark ")" then
          readEnd after
          return some argument
        else .error closing.fault
    else .error token.fault

/-- A pragma from the tokens after its keyword. -/
def read (short : StatementFault) : List Token → Except StatementFault Pragma
  | [] => .error short
  | first :: rest =>
    if first.isName then
      match rest with
      | dot :: more =>
        if dot.isMark "." then
          match more with
          | [] => .error short
          | second :: after =>
            if second.isName then
              (readSetting short after).map fun a => ⟨some first, second.value, a⟩
            else .error second.fault
        else (readSetting short rest).map fun a => ⟨none, first.value, a⟩
      | [] => .ok ⟨none, first.value, none⟩
    else .error first.fault

end Pragma

namespace Statement

/-- A statement from its tokens, of which there is at least one that is no blank. -/
def read (short : StatementFault) : List Token → Except StatementFault Statement
  | [] => .error short
  | first :: rest =>
    if first.isKeyword "pragma" then (Pragma.read short rest).map .pragma
    else if first.kind = .word ∧ statementWords.contains first.text.lowered then .ok .other
    else .error first.fault

/-- The tokens of each statement, and the fault of one that ends too early: of the last statement,
that the text is incomplete, and of the others, that a semicolon follows. -/
def divide : List Token → List (StatementFault × List Token)
  | [] => [(.incomplete, [])]
  | token :: rest =>
    if token.isMark ";" then (.unexpected ";", []) :: divide rest
    else if token.kind = .blank then divide rest
    else
      match divide rest with
      | [] => [(.incomplete, [token])]
      | (short, tokens) :: more => (short, token :: tokens) :: more

/-- The statements of a text one after another, each read when its turn comes. Empty statements are
left out. -/
def readAll (t : Text) : List (Except StatementFault Statement) :=
  ((divide (tokens t)).filter fun s => !s.2.isEmpty).map fun s => read s.1 s.2

end Statement

end SwiftForms.Sql
