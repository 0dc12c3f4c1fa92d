import SwiftForms.Store.Database

/-!
# Pages of a database

A database is kept in pages of one size. Each of its two tables and of their two indexes starts on a
page of its own, after the page that lists them. The rows of the table of compilations fill pages in
the order in which they were inserted; a row that is too long for a page goes on in pages of its own.
-/

namespace SwiftForms.Database

/-- The size of a page in bytes. -/
def pageSize : Nat :=
  4096

/-- The pages of a database whose tables need no more than one page each. -/
def fewestPages : Nat :=
  5

/-- The number of bytes of a number that is written seven bits to a byte. -/
def varintSize (n : Nat) : Nat :=
  if n < 128 then 1 else varintSize (n / 128) + 1

/-- The number of bytes of a row: the sizes of its cells, then the cells. -/
def rowSize (cells : List Text) : Nat :=
  1 + (cells.map fun cell => varintSize (2 * cell.byteSize + 13) + cell.byteSize).foldr (· + ·) 0

/-- The bytes of a row that stay on a page of the table. -/
def residentSize (size : Nat) : Nat :=
  let most := pageSize - 35
  let least := (pageSize - 12) * 32 / 255 - 23
  if size ≤ most then size
  else
    let even := least + (size - least) % (pageSize - 4)
    if even ≤ most then even else least

/-- The pages that the rest of a row fills. -/
def overflowPages (size : Nat) : Nat :=
  (size - residentSize size + (pageSize - 5)) / (pageSize - 4)

/-- The space that the row of a given number takes on a page of the table. -/
def cellSpace (number size : Nat) : Nat :=
  let link := if residentSize size < size then 4 else 0
  varintSize size + varintSize number + residentSize size + link + 2

/-- The pages that rows fill one after another, when `left` bytes are free on the current page and the
next row has a given number. -/
def filledPages (left number : Nat) : List Nat → Nat
  | [] => 1
  | size :: rest =>
    let space := cellSpace number size
    if space ≤ left then filledPages (left - space) (number + 1) rest
    else filledPages (pageSize - 8 - space) (number + 1) rest + 1

/-- The sizes of the rows of the table of compilations. -/
def rowSizes (db : Database) : List Nat :=
  db.compilations.map fun e => rowSize [e.key, e.source, e.output]

/-- The number of pages of a database. A table that needs more than one page has one more, which leads
to the others. -/
def pages (db : Database) : Nat :=
  let filled := filledPages (pageSize - 8) 1 db.rowSizes
  fewestPages + (if filled = 1 then 0 else filled) + (db.rowSizes.map overflowPages).foldr (· + ·) 0

end SwiftForms.Database
