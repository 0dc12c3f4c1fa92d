import SwiftForms.Proofs.Form.Head

/-!
# Forms at other places

Reading does not depend on where a text stands. A text that is read from a place further down gives
the same forms, and the same error, with every position moved down by as much. What a position says
of the column is not touched, so this is about places at the same column.
-/

namespace SwiftForms

mutual

/-- A form with each of its positions moved. -/
def Form.relocate (move : Position → Position) : Form → Form
  | .leaf kind text pos => .leaf kind text (move pos)
  | .group bracket children pos => .group bracket (relocateForms move children) (move pos)

/-- Forms with each of their positions moved. -/
def relocateForms (move : Position → Position) : List Form → List Form
  | [] => []
  | form :: rest => form.relocate move :: relocateForms move rest

end

/-- A reading error with its position moved. -/
def ReadError.relocate (move : Position → Position) (e : ReadError) : ReadError :=
  { e with pos := move e.pos }

/-- The place as many glyphs and lines further down, at the same column. -/
def Position.shift (offset lines : Int) (p : Position) : Position :=
  ⟨p.offset + offset, p.line + lines, p.column⟩

/-- Forms are moved one by one. -/
theorem relocateForms_eq_map (move : Position → Position) (forms : List Form) :
    relocateForms move forms = forms.map (Form.relocate move) := by
  induction forms with
  | nil => rw [relocateForms, List.map_nil]
  | cons form rest ih => rw [relocateForms, ih, List.map_cons]

/-- Moving forms keeps their number. -/
@[simp] theorem length_relocateForms (move : Position → Position) (forms : List Form) :
    (relocateForms move forms).length = forms.length := by
  rw [relocateForms_eq_map, List.length_map]

namespace Position

/-- Going on by a glyph and moving down are independent. -/
theorem advance_shift (offset lines : Int) (p : Position) (g : Glyph) :
    (p.shift offset lines).advance g = (p.advance g).shift offset lines := by
  unfold advance shift
  split
  · simp only [mk.injEq, and_true]
    omega
  · simp only [mk.injEq, and_true]
    omega

/-- Going on by a text and moving down are independent. -/
theorem after_shift (offset lines : Int) (p : Position) (t : Text) :
    (p.shift offset lines).after t = (p.after t).shift offset lines := by
  induction t generalizing p with
  | nil => rfl
  | cons g rest ih => rw [after_cons, after_cons, advance_shift, ih]

end Position

namespace Reader

/-- The outcome of reading with each of its positions moved. -/
def relocated (move : Position → Position) :
    Except ReadError (List Form) → Except ReadError (List Form)
  | .ok forms => .ok (relocateForms move forms)
  | .error e => .error (e.relocate move)

/-- A text gives the same outcome further down, with each position moved. -/
theorem readForms_shift (offset lines : Int) (depth : Nat) (pos : Position) (t : Text) :
    readForms depth (pos.shift offset lines) t =
      relocated (Position.shift offset lines) (readForms depth pos t) := by
  induction depth, pos, t using head_induction with
  | done depth pos t hhead =>
    simp only [readForms_eq _ _ t, hhead, relocated, relocateForms]
  | fault depth pos t fault fragment hhead =>
    simp only [readForms_eq _ _ t, hhead, relocated, ReadError.relocate]
  | space depth pos t g rest hhead ih =>
    simp only [readForms_eq _ _ t, hhead]
    rw [Position.advance_shift, ih]
  | word depth pos t kind spelled rest hhead ih =>
    simp only [readForms_eq _ _ t, hhead]
    rw [Position.after_shift, ih]
    cases readForms depth (pos.after spelled) rest <;> rfl
  | group depth pos t bracket interior rest hhead ihinside ihrest =>
    simp only [readForms_eq _ _ t, hhead]
    rw [Position.advance_shift, Position.after_shift, ihinside, ihrest]
    cases readForms (depth + 1) (pos.advance bracket.opening) interior with
    | error e => rfl
    | ok children => cases readForms depth (pos.after (bracket.around interior)) rest <;> rfl

end Reader

end SwiftForms
