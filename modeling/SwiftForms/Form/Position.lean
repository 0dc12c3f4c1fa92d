import SwiftForms.Text.Basic

/-!
# Positions

Where a form stands in its source: the number of glyphs before it, and its line and column, both
counted from one. The offsets at which the lines of a text start are noted once, when the text is taken
in; the line of an offset is then found among them by halving.
-/

namespace SwiftForms

/-- The glyph that ends a line. -/
def newline : Glyph :=
  .char '\n'

/-- A place in a source text. A line of zero or less marks a form that was not read from a text. -/
structure Position where
  /-- The number of glyphs before the place. -/
  offset : Int
  /-- The line, from one. -/
  line : Int
  /-- The column in glyphs, from one. -/
  column : Int
  deriving DecidableEq, Repr, Inhabited

/-- The offsets at which the lines of a text start, in order. -/
structure LineTable where
  /-- The offsets. -/
  starts : Array Nat
  /-- The first line starts with the text. -/
  first : starts[0]? = some 0

namespace LineTable

/-- The starts of lines together with those in a text behind `offset` glyphs: a line starts after every
newline. -/
def note (starts : Array Nat) (offset : Nat) : Text → Array Nat
  | [] => starts
  | g :: rest => note (if g = newline then starts.push (offset + 1) else starts) (offset + 1) rest

/-- The first line stays the first. -/
theorem first_note {starts : Array Nat} (h : starts[0]? = some 0) (offset : Nat) (t : Text) :
    (note starts offset t)[0]? = some 0 := by
  induction t generalizing starts offset with
  | nil => exact h
  | cons g rest ih =>
    refine ih ?_ (offset + 1)
    split
    · obtain ⟨hsize, hfirst⟩ := Array.getElem?_eq_some_iff.mp h
      rw [Array.getElem?_push_lt hsize, hfirst]
    · exact h

/-- The lines of a text. -/
def ofText (t : Text) : LineTable :=
  ⟨note #[0] 0 t, first_note rfl 0 t⟩

/-- The first number from `low` on and below `high` that passes a test, or else `high`. The numbers are
halved at each step, so a number that passes must not be followed by one that does not. -/
def search (passes : Nat → Bool) (low high : Nat) : Nat :=
  if low < high then
    if passes ((low + high) / 2) then search passes low ((low + high) / 2)
    else search passes ((low + high) / 2 + 1) high
  else low
  termination_by high - low

/-- The line of an offset: the number of lines that do not start behind it. -/
def line (lines : LineTable) (offset : Nat) : Nat :=
  search (fun index => offset < lines.starts.getD index 0) 0 lines.starts.size

/-- The position of an offset. Its column is counted from the start of its line. -/
def position (lines : LineTable) (offset : Nat) : Position :=
  let line := lines.line offset
  ⟨offset, line, offset - lines.starts.getD (line - 1) 0 + 1⟩

end LineTable

end SwiftForms
