import SwiftForms.Form.Reader

/-!
# The search for a closing bracket

The search goes over a text glyph by glyph. What it does at a glyph depends on the glyph, on whether
it stands inside a string, and on the brackets that are open: it goes on, or it has found the bracket,
or a bracket of the wrong kind ends it. A search that has succeeded does not look at what follows.
-/

namespace SwiftForms.Reader

/-- What a search does at a glyph. -/
inductive Turn where
  /-- It goes on. -/
  | onward (mode : Mode) (inner : List Bracket)
  /-- The glyph is the bracket that was looked for. -/
  | found
  /-- The glyph is a bracket of the wrong kind. -/
  | wrong

/-- What the search for the bracket that closes `outer` does at a glyph. -/
def turn (outer : Bracket) (mode : Mode) (inner : List Bracket) (g : Glyph) : Turn :=
  match mode with
  | .escaped => .onward .quoted inner
  | .quoted =>
    if g = .char '\\' then .onward .escaped inner
    else if g = .char '"' then .onward .code inner
    else .onward .quoted inner
  | .code =>
    match g.role, inner with
    | .quote, inner => .onward .quoted inner
    | .opens bracket, inner => .onward .code (bracket :: inner)
    | .closes bracket, [] => if bracket = outer then .found else .wrong
    | .closes bracket, top :: more => if bracket = top then .onward .code more else .wrong
    | _, inner => .onward .code inner

/-- A search is given by what it does at the first glyph and by the search in the rest. -/
theorem enclose_cons (outer : Bracket) (mode : Mode) (inner : List Bracket) (g : Glyph)
    (rest : Text) :
    enclose outer mode inner (g :: rest) =
      match turn outer mode inner g with
      | .onward mode inner => (enclose outer mode inner rest).cons g
      | .found => .closed [] rest
      | .wrong => .mismatched [g] := by
  cases mode with
  | escaped => rfl
  | quoted =>
    rw [enclose, turn]
    split
    · rfl
    · split <;> rfl
  | code =>
    cases hrole : g.role with
    | space => simp only [enclose, turn, hrole]
    | quote => simp only [enclose, turn, hrole]
    | opens bracket => simp only [enclose, turn, hrole]
    | plain => simp only [enclose, turn, hrole]
    | closes bracket =>
      cases inner with
      | nil =>
        simp only [enclose, turn, hrole]
        split <;> rfl
      | cons top more =>
        simp only [enclose, turn, hrole]
        split <;> rfl

/-- A bracket that is closed stays closed where it is when more text follows. -/
theorem enclose_append {outer : Bracket} {mode : Mode} {inner : List Bracket}
    {t interior rest : Text} (h : enclose outer mode inner t = .closed interior rest) (u : Text) :
    enclose outer mode inner (t ++ u) = .closed interior (rest ++ u) := by
  induction t generalizing mode inner interior with
  | nil => cases mode <;> cases h
  | cons g tail ih =>
    rw [enclose_cons] at h
    rw [List.cons_append, enclose_cons]
    cases hturn : turn outer mode inner g with
    | onward mode' inner' =>
      rw [hturn] at h
      obtain ⟨inside, rfl, hinside⟩ := Enclosed.cons_eq_closed h
      simp only [ih hinside, Enclosed.cons]
    | found =>
      rw [hturn] at h
      cases h
      rfl
    | wrong =>
      rw [hturn] at h
      cases h

end SwiftForms.Reader
