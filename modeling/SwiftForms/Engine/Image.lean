import SwiftForms.Store.Database

/-!
# Databases as files

The text in which a database is kept in a file: a heading, then a line for each row, with tabs
between the cells. Backslashes, tabs and newlines inside a cell are written as escapes, so that the
lines and the cells can be told apart again. The heading says whether the changes of the database are
gathered in a log.
-/

namespace SwiftForms.Database

/-- The first line of a database file. -/
def heading (logged : Bool) : Text :=
  if logged then "compilation cache, layout 1, with a log" else "compilation cache, layout 1"

/-- A glyph inside a cell. -/
def escapeGlyph : Glyph → Text
  | .char '\\' => "\\\\"
  | .char '\t' => "\\t"
  | .char '\n' => "\\n"
  | g => [g]

/-- The text of a cell. -/
def escapeCell (cell : Text) : Text :=
  cell.flatMap escapeGlyph

/-- The cell of a text, unless it ends inside an escape or holds an unknown one. -/
def unescapeCell? : Text → Option Text
  | [] => some []
  | .char '\\' :: .char '\\' :: rest => (unescapeCell? rest).map (.char '\\' :: ·)
  | .char '\\' :: .char 't' :: rest => (unescapeCell? rest).map (.char '\t' :: ·)
  | .char '\\' :: .char 'n' :: rest => (unescapeCell? rest).map (.char '\n' :: ·)
  | .char '\\' :: _ => none
  | g :: rest => (unescapeCell? rest).map (g :: ·)

/-- The line of a row. -/
def rowLine (cells : List Text) : Text :=
  Text.join "\t" (cells.map escapeCell)

/-- The cells of a line. -/
def rowCells? (line : Text) : Option (List Text) :=
  (line.splitOn (.char '\t')).mapM unescapeCell?

/-- The text of a database. -/
def image (db : Database) (logged : Bool) : Text :=
  let entries := db.compilations.map fun e => rowLine ["compilation", e.key, e.source, e.output]
  let metadata := db.metadata.map fun row => rowLine ["metadata", row.key, row.value]
  Text.join "\n" (heading logged :: (entries ++ metadata))

/-- A database with the row of one more line. -/
def addRow? (db : Database) (line : Text) : Option Database :=
  match rowCells? line with
  | some [table, key, source, output] =>
    if table = "compilation" then
      some { db with compilations := db.compilations ++ [⟨key, source, output⟩] }
    else none
  | some [table, key, value] =>
    if table = "metadata" then some { db with metadata := db.metadata ++ [⟨key, value⟩] } else none
  | _ => none

end SwiftForms.Database

namespace SwiftForms

/-- What a database file holds. -/
inductive DatabaseFile where
  /-- Nothing yet. -/
  | blank
  /-- The tables of a database, whose changes may be gathered in a log. -/
  | tables (contents : Database) (logged : Bool)
  /-- Something else than a database. -/
  | foreign
  deriving DecidableEq, Repr

namespace DatabaseFile

/-- The tables of the lines after a heading. -/
def ofLines (logged : Bool) (lines : List Text) : DatabaseFile :=
  match lines.foldlM Database.addRow? .create with
  | some db => .tables db logged
  | none => .foreign

/-- What a file with a text holds. A file of a single byte counts as empty. -/
def ofText (text : Text) : DatabaseFile :=
  if text.byteSize ≤ 1 then .blank
  else
    match text.lines with
    | first :: rest =>
      if first = Database.heading false then ofLines false rest
      else if first = Database.heading true then ofLines true rest
      else .foreign
    | [] => .foreign

end DatabaseFile

end SwiftForms
