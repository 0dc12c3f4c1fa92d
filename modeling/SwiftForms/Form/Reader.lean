import SwiftForms.Form.Basic
import SwiftForms.Form.Numeral
import SwiftForms.Form.ReadError

/-!
# Reading forms

A text is read from left to right. At an opening bracket the reader first looks for the bracket that
closes it, passing over strings and over inner brackets, which must match; only then does it read
what stands between the two. An unclosed or badly closed form is therefore reported at its outermost
bracket, before anything inside it is looked at.
-/

namespace SwiftForms

namespace Reader

/-- A string from just after its opening quote: the part through its closing quote, and the rest. A
backslash takes the next glyph with it. -/
def closeString : Text → Option (Text × Text)
  | [] => none
  | .char '"' :: rest => some ([.char '"'], rest)
  | .char '\\' :: g :: rest =>
    (closeString rest).map fun (body, after) => (.char '\\' :: g :: body, after)
  | g :: rest => (closeString rest).map fun (body, after) => (g :: body, after)

/-- Where a search for a closing bracket stands. -/
inductive Mode where
  /-- Outside strings. -/
  | code
  /-- Inside a string. -/
  | quoted
  /-- Inside a string, just after a backslash. -/
  | escaped
  deriving DecidableEq, Repr

/-- The outcome of a search for a closing bracket. -/
inductive Enclosed where
  /-- It was found: the text before it and the text after it. -/
  | closed (interior rest : Text)
  /-- Another bracket of the wrong kind came first: the text through that bracket. -/
  | mismatched (seen : Text)
  /-- The text ended inside a string. -/
  | openString
  /-- The text ended outside strings. -/
  | openForm
  deriving DecidableEq, Repr

/-- An outcome with one more glyph in front of the searched text. -/
def Enclosed.cons (g : Glyph) : Enclosed → Enclosed
  | .closed interior rest => .closed (g :: interior) rest
  | .mismatched seen => .mismatched (g :: seen)
  | .openString => .openString
  | .openForm => .openForm

/-- The search for the bracket that closes `outer`, while the brackets of `inner` are open inside it,
innermost first. -/
def enclose (outer : Bracket) : Mode → List Bracket → Text → Enclosed
  | .code, _, [] => .openForm
  | .quoted, _, [] => .openString
  | .escaped, _, [] => .openString
  | .escaped, inner, g :: rest => (enclose outer .quoted inner rest).cons g
  | .quoted, inner, g :: rest =>
    if g = .char '\\' then (enclose outer .escaped inner rest).cons g
    else if g = .char '"' then (enclose outer .code inner rest).cons g
    else (enclose outer .quoted inner rest).cons g
  | .code, inner, g :: rest =>
    match g.role, inner with
    | .quote, inner => (enclose outer .quoted inner rest).cons g
    | .opens bracket, inner => (enclose outer .code (bracket :: inner) rest).cons g
    | .closes bracket, [] => if bracket = outer then .closed [] rest else .mismatched [g]
    | .closes bracket, top :: more =>
      if bracket = top then (enclose outer .code more rest).cons g else .mismatched [g]
    | _, inner => (enclose outer .code inner rest).cons g

/-- The kind of a word outside strings. -/
def classify (word : Text) : Except ReadFault Leaf :=
  if word.any Glyph.isDelimiter then .error .strayDelimiter
  else if Numeral.isNumeral word then
    if Numeral.isFractional word || Numeral.fits (Numeral.integer word) then .ok .number
    else .error .integerRange
  else if Numeral.looksNumeric word then .error .malformedNumber
  else .ok .atom

/-- A closed string keeps every glyph. -/
theorem append_of_closeString {t body rest : Text} (h : closeString t = some (body, rest)) :
    t = body ++ rest := by
  fun_induction closeString t generalizing body rest with
  | case1 => simp at h
  | case2 =>
    obtain ⟨rfl, rfl⟩ := Prod.mk.inj (Option.some.inj h)
    rfl
  | case3 g tail ih =>
    obtain ⟨⟨inner, after⟩, hinner, hpair⟩ := Option.map_eq_some_iff.1 h
    obtain ⟨rfl, rfl⟩ := Prod.mk.inj hpair
    simp [ih hinner]
  | case4 g tail _ _ ih =>
    obtain ⟨⟨inner, after⟩, hinner, hpair⟩ := Option.map_eq_some_iff.1 h
    obtain ⟨rfl, rfl⟩ := Prod.mk.inj hpair
    simp [ih hinner]

/-- An outcome with a glyph in front is a closed form only if the outcome itself is one. -/
theorem Enclosed.cons_eq_closed {g : Glyph} {e : Enclosed} {interior rest : Text}
    (h : e.cons g = .closed interior rest) :
    ∃ inner, interior = g :: inner ∧ e = .closed inner rest := by
  cases e <;> simp_all [Enclosed.cons]

/-- What is said of the glyphs around a closing bracket survives a glyph in front of the text. -/
theorem append_of_cons {outer : Bracket} {g : Glyph} {e : Enclosed} {t interior rest : Text}
    (h : e.cons g = .closed interior rest)
    (ih : ∀ inner, e = .closed inner rest →
      ∃ closer, t = inner ++ closer :: rest ∧ closer.role = .closes outer) :
    ∃ closer, g :: t = interior ++ closer :: rest ∧ closer.role = .closes outer := by
  obtain ⟨inner, rfl, hinner⟩ := Enclosed.cons_eq_closed h
  obtain ⟨closer, rfl, hrole⟩ := ih inner hinner
  exact ⟨closer, rfl, hrole⟩

/-- A search that succeeds cuts out one glyph, the closing bracket, and keeps the others. -/
theorem append_of_enclose {outer : Bracket} {mode : Mode} {inner : List Bracket}
    {t interior rest : Text} (h : enclose outer mode inner t = .closed interior rest) :
    ∃ closer, t = interior ++ closer :: rest ∧ closer.role = .closes outer := by
  fun_induction enclose outer mode inner t generalizing interior with
  | case1 => cases h
  | case2 => cases h
  | case3 => cases h
  | case4 _ _ _ ih => exact append_of_cons h fun _ => ih
  | case5 _ _ ih => exact append_of_cons h fun _ => ih
  | case6 _ _ _ ih => exact append_of_cons h fun _ => ih
  | case7 _ _ _ _ _ ih => exact append_of_cons h fun _ => ih
  | case8 _ _ _ _ ih => exact append_of_cons h fun _ => ih
  | case9 _ _ _ _ _ ih => exact append_of_cons h fun _ => ih
  | case10 g tail hrole =>
    cases h
    exact ⟨g, rfl, hrole⟩
  | case11 => cases h
  | case12 _ _ _ _ _ ih => exact append_of_cons h fun _ => ih
  | case13 => cases h
  | case14 _ _ _ _ _ _ _ ih => exact append_of_cons h fun _ => ih

/-- The forms of a text behind `offset` glyphs of a source, inside `depth` open brackets. The positions
of offsets in the source are given by `place`. -/
def formsAt (place : Nat → Position) (depth offset : Nat) (t : Text) : Except ReadError (List Form) :=
  match t with
  | [] => .ok []
  | g :: rest =>
    match g.role with
    | .space => formsAt place depth (offset + 1) rest
    | .closes _ => .error ⟨.unexpectedCloser, [g.normal], place offset⟩
    | .quote =>
      match _hclose : closeString rest with
      | none => .error ⟨.unterminatedString, Text.normal (g :: rest), place offset⟩
      | some (body, after) =>
        match formsAt place depth (offset + (g :: body).length) after with
        | .error e => .error e
        | .ok forms => .ok (.leaf .string (Text.normal (g :: body)) (place offset) :: forms)
    | .opens bracket =>
      if maxDepth ≤ depth then .error ⟨.tooDeep, Text.normal (g :: rest), place offset⟩
      else
        match _henclose : enclose bracket .code [] rest with
        | .openString => .error ⟨.unterminatedString, Text.normal (g :: rest), place offset⟩
        | .openForm => .error ⟨.unterminated bracket, Text.normal (g :: rest), place offset⟩
        | .mismatched seen => .error ⟨.mismatchedCloser, Text.normal (g :: seen), place offset⟩
        | .closed interior after =>
          match formsAt place (depth + 1) (offset + 1) interior with
          | .error e => .error e
          | .ok children =>
            match formsAt place depth (offset + 1 + interior.length + 1) after with
            | .error e => .error e
            | .ok forms => .ok (.group bracket children (place offset) :: forms)
    | .plain =>
      let word := g :: rest.takeWhile fun h => !h.isSpace
      match classify (Text.normal word) with
      | .error fault => .error ⟨fault, Text.normal word, place offset⟩
      | .ok kind =>
        match formsAt place depth (offset + word.length) (rest.dropWhile fun h => !h.isSpace) with
        | .error e => .error e
        | .ok forms => .ok (.leaf kind (Text.normal word) (place offset) :: forms)
  termination_by t.length
  decreasing_by
    · simp
    · have happend := congrArg List.length (append_of_closeString _hclose)
      simp only [List.length_append, List.length_cons] at happend ⊢
      omega
    · obtain ⟨closer, happend, _⟩ := append_of_enclose _henclose
      simp only [happend, List.length_append, List.length_cons]
      omega
    · obtain ⟨closer, happend, _⟩ := append_of_enclose _henclose
      simp only [happend, List.length_append, List.length_cons]
      omega
    · have hdrop := (rest.dropWhile_suffix fun h => !h.isSpace).length_le
      simp only [List.length_cons]
      omega

end Reader

/-- The forms of a source text. -/
def read (source : Text) : Except ReadError (List Form) :=
  Reader.formsAt (LineTable.ofText source).position 0 0 source

end SwiftForms
