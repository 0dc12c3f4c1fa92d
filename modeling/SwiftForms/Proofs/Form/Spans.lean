import SwiftForms.Proofs.Form.Concatenation
import SwiftForms.Proofs.Form.Nesting

/-!
# Searches inside enclosed texts

The search for a closing bracket passes over strings and brackets, each from the glyph that opens it to
the glyph that closes it; for the end of a string it makes a search of its own. What it finds encloses a
text that is then read by further searches. Reading is followed here with a record of every search. Main
statement: reading that text fails at a word or for its depth only, and every search that is made in doing
so succeeds, ends where the first search passed over what it looks for, and passes over nothing else.
-/

namespace SwiftForms

namespace Reader

/-- A string or two brackets in a source, by the offsets of the glyphs that open and close it. -/
structure Span where
  /-- The offset of the glyph that opens it. -/
  first : Nat
  /-- The offset of the glyph that closes it. -/
  last : Nat
  deriving DecidableEq, Repr

/-- A search for the end of a string or of a form. -/
structure Search where
  /-- The offset of the glyph that opens the string or the form. -/
  start : Nat
  /-- The offset of the glyph that closes it, if that is found. -/
  found : Option Nat
  /-- The strings and brackets that it passes over, in the order in which they are closed. -/
  passed : List Span
  deriving DecidableEq, Repr

/-- The outcome of a search for a closing bracket together with what it does on its way. -/
structure Survey where
  /-- The outcome. -/
  outcome : Enclosed
  /-- The strings and brackets that it passes over, in the order in which they are closed. -/
  spans : List Span
  /-- The searches that it makes for the ends of strings. -/
  strings : List Search
  deriving DecidableEq, Repr

/-- A survey with more text in front, in which these spans are closed and these strings looked for. -/
def Survey.prepend (t : Text) (spans : List Span) (strings : List Search) (s : Survey) : Survey :=
  ⟨s.outcome.prepend t, spans ++ s.spans, strings ++ s.strings⟩

/-- The search for the bracket that closes `outer`, with what it does on its way. The text stands behind
`offset` glyphs, and the brackets of `opened` are open with their offsets, innermost first. -/
def survey (outer : Bracket) (opened : List (Bracket × Nat)) (offset : Nat) (t : Text) : Survey :=
  match t with
  | [] => ⟨.openForm, [], []⟩
  | g :: rest =>
    match g.role, opened with
    | .quote, opened =>
      match _hclose : closeString rest with
      | none => ⟨.openString, [], [⟨offset, none, []⟩]⟩
      | some (body, after) =>
        (survey outer opened (offset + (g :: body).length) after).prepend (g :: body)
          [⟨offset, offset + body.length⟩] [⟨offset, some (offset + body.length), []⟩]
    | .opens bracket, opened =>
      (survey outer ((bracket, offset) :: opened) (offset + 1) rest).prepend [g] [] []
    | .closes bracket, [] =>
      if bracket = outer then ⟨.closed [] rest, [], []⟩ else ⟨.mismatched [g], [], []⟩
    | .closes bracket, (top, start) :: more =>
      if bracket = top then (survey outer more (offset + 1) rest).prepend [g] [⟨start, offset⟩] []
      else ⟨.mismatched [g], [], []⟩
    | _, opened => (survey outer opened (offset + 1) rest).prepend [g] [] []
  termination_by t.length
  decreasing_by
    · have happend := congrArg List.length (append_of_closeString _hclose)
      simp only [List.length_append, List.length_cons] at happend ⊢
      omega
    all_goals simp

/-- Inside a string that is not closed the search goes on to the end of the text. -/
theorem enclose_openString {t : Text} (h : closeString t = none) (outer : Bracket)
    (inner : List Bracket) : enclose outer .quoted inner t = .openString := by
  fun_induction closeString t with
  | case1 => rfl
  | case2 rest => cases h
  | case3 g rest ih =>
    rw [enclose_cons, turn]
    simp only [if_pos]
    rw [enclose_cons, turn]
    simp only [ih (Option.map_eq_none_iff.mp h)]
    rfl
  | case4 g rest hquote hescape ih =>
    rw [enclose_cons, turn]
    by_cases hg : g = .char '\\'
    · cases rest with
      | nil => simp only [if_pos hg]; rfl
      | cons next more => exact absurd rfl (hescape next more hg)
    · simp only [if_neg hg, if_neg hquote, ih (Option.map_eq_none_iff.mp h)]
      rfl

/-- The outcome of a survey is that of the search. -/
theorem outcome_survey (outer : Bracket) (opened : List (Bracket × Nat)) (offset : Nat) (t : Text) :
    (survey outer opened offset t).outcome = enclose outer .code (opened.map Prod.fst) t := by
  fun_induction survey outer opened offset t with
  | case1 opened offset => rfl
  | case2 offset g rest opened hrole hclose =>
    simp only [enclose, hrole, enclose_openString hclose]
    rfl
  | case3 offset g rest opened hrole body after hclose ih =>
    obtain ⟨hquoted, rfl⟩ := closeString_eq_some_iff.mp hclose
    simp only [enclose, hrole, enclose_quoted hquoted, ← ih]
    rfl
  | case4 offset g rest bracket opened hrole ih =>
    simp only [enclose, hrole, Survey.prepend, ih]
    rfl
  | case5 offset g rest hrole => simp only [List.map_nil, enclose, hrole, if_pos]
  | case6 offset g rest bracket hrole hne => simp only [List.map_nil, enclose, hrole, if_neg hne]
  | case7 offset g rest top start more hrole ih =>
    simp only [List.map_cons, enclose, hrole, if_pos, Survey.prepend, ih]
    rfl
  | case8 offset g rest bracket top start more hrole hne =>
    simp only [List.map_cons, enclose, hrole, if_neg hne]
  | case9 offset g rest opened hquote hopens hcloses hmore ih =>
    have hturn : turn outer .code (opened.map Prod.fst) g = .onward .code (opened.map Prod.fst) := by
      cases hrole : g.role with
      | quote => exact absurd hrole hquote
      | opens bracket => exact absurd hrole (hopens bracket)
      | space => simp only [turn, hrole]
      | plain => simp only [turn, hrole]
      | closes bracket =>
        cases opened with
        | nil => exact absurd rfl (hcloses bracket hrole)
        | cons top more => exact absurd rfl (hmore bracket top.1 top.2 more hrole)
    rw [enclose_cons, hturn]
    dsimp only
    rw [← ih]
    rfl

/-- A glyph that is no delimiter is passed by. -/
theorem survey_glyph {g : Glyph} (h : g.isDelimiter = false) (outer : Bracket)
    (opened : List (Bracket × Nat)) (offset : Nat) (rest : Text) :
    survey outer opened offset (g :: rest) =
      (survey outer opened (offset + 1) rest).prepend [g] [] [] := by
  rw [survey.eq_def]
  cases hrole : g.role with
  | space => simp only [hrole]
  | plain => simp only [hrole]
  | _ => simp [Glyph.isDelimiter, hrole] at h

/-- The end of a string is looked for, and the string is passed over. -/
theorem survey_string {body : Text} (h : Quoted body) (outer : Bracket)
    (opened : List (Bracket × Nat)) (offset : Nat) (rest : Text) :
    survey outer opened offset (.char '"' :: body ++ rest) =
      (survey outer opened (offset + (Glyph.char '"' :: body).length) rest).prepend (.char '"' :: body)
        [⟨offset, offset + body.length⟩] [⟨offset, some (offset + body.length), []⟩] := by
  have hrole : Glyph.role (.char '"') = .quote := rfl
  have hclose := closeString_of_quoted h rest
  rw [survey.eq_def, List.cons_append]
  simp only [hrole]
  split
  · rename_i hnone
    rw [hclose] at hnone
    cases hnone
  · rename_i found after hsome
    rw [hclose] at hsome
    cases hsome
    rfl

/-- An opening bracket is kept in mind. -/
theorem survey_opening (outer bracket : Bracket) (opened : List (Bracket × Nat)) (offset : Nat)
    (rest : Text) :
    survey outer opened offset (bracket.opening :: rest) =
      (survey outer ((bracket, offset) :: opened) (offset + 1) rest).prepend [bracket.opening] [] [] := by
  rw [survey.eq_def]
  simp only [bracket.role_opening]

/-- The innermost open bracket is closed, and the two are passed over. -/
theorem survey_closing (outer bracket : Bracket) (opened : List (Bracket × Nat)) (start offset : Nat)
    (rest : Text) :
    survey outer ((bracket, start) :: opened) offset (bracket.closing :: rest) =
      (survey outer opened (offset + 1) rest).prepend [bracket.closing] [⟨start, offset⟩] [] := by
  rw [survey.eq_def]
  simp only [bracket.role_closing, if_pos]

/-- The bracket that was looked for is found where no other is open. -/
theorem survey_found {bracket : Bracket} {closer : Glyph} (h : closer.role = .closes bracket)
    (offset : Nat) (rest : Text) :
    survey bracket [] offset (closer :: rest) = ⟨.closed [] rest, [], []⟩ := by
  rw [survey.eq_def]
  simp only [h, if_pos]

/-- What stands at the head of a text, and the searches by which it is told. -/
structure Inspection where
  /-- What stands there. -/
  head : Head
  /-- The searches. -/
  searches : List Search

/-- What stands at the head of a text behind `offset` glyphs, inside `depth` open brackets. At a quote the
end of the string is looked for. At an opening bracket, unless it is too deep, the bracket that closes it
is looked for, and on the way the ends of the strings in between. -/
def inspect (depth offset : Nat) : Text → Inspection
  | [] => ⟨.done, []⟩
  | g :: rest =>
    match g.role with
    | .space => ⟨.space g rest, []⟩
    | .closes _ => ⟨.fault .unexpectedCloser [g.normal], []⟩
    | .quote =>
      match closeString rest with
      | none => ⟨.fault .unterminatedString (Text.normal (g :: rest)), [⟨offset, none, []⟩]⟩
      | some (body, after) =>
        ⟨.word .string (g :: body) after, [⟨offset, some (offset + body.length), []⟩]⟩
    | .opens bracket =>
      if maxDepth ≤ depth then ⟨.fault .tooDeep (Text.normal (g :: rest)), []⟩
      else
        let s := survey bracket [] (offset + 1) rest
        match s.outcome with
        | .openString =>
          ⟨.fault .unterminatedString (Text.normal (g :: rest)), ⟨offset, none, s.spans⟩ :: s.strings⟩
        | .openForm =>
          ⟨.fault (.unterminated bracket) (Text.normal (g :: rest)),
            ⟨offset, none, s.spans⟩ :: s.strings⟩
        | .mismatched seen =>
          ⟨.fault .mismatchedCloser (Text.normal (g :: seen)), ⟨offset, none, s.spans⟩ :: s.strings⟩
        | .closed interior after =>
          ⟨.group bracket interior after,
            ⟨offset, some (offset + 1 + interior.length), s.spans⟩ :: s.strings⟩
    | .plain =>
      let word := g :: rest.takeWhile fun h => !h.isSpace
      match classify (Text.normal word) with
      | .error fault => ⟨.fault fault (Text.normal word), []⟩
      | .ok kind => ⟨.word kind word (rest.dropWhile fun h => !h.isSpace), []⟩

/-- The searches tell what stands at the head of a text. -/
theorem head_inspect (depth offset : Nat) (t : Text) : (inspect depth offset t).head = head depth t := by
  cases t with
  | nil => rfl
  | cons g rest =>
    cases hrole : g.role with
    | space => simp only [inspect, head, hrole]
    | closes bracket => simp only [inspect, head, hrole]
    | quote =>
      simp only [inspect, head, hrole]
      cases closeString rest <;> rfl
    | opens bracket =>
      simp only [inspect, head, hrole, outcome_survey, List.map_nil]
      split
      · rfl
      · cases enclose bracket .code [] rest <;> rfl
    | plain =>
      simp only [inspect, head, hrole]
      cases classify (Text.normal (g :: rest.takeWhile fun h => !h.isSpace)) <;> rfl

/-- What is read of a text together with the searches that are made. -/
structure Trace where
  /-- What is read. -/
  result : Except ReadError (List Form)
  /-- The searches, in order. -/
  searches : List Search

/-- Reading a text behind `offset` glyphs, inside `depth` open brackets, with a record of the searches.
What follows a form is looked at only if the inside of the form can be read. -/
def watch (place : Nat → Position) (depth offset : Nat) (t : Text) : Trace :=
  let made := (inspect depth offset t).searches
  match _hhead : (inspect depth offset t).head with
  | .done => ⟨.ok [], made⟩
  | .fault fault fragment => ⟨.error ⟨fault, fragment, place offset⟩, made⟩
  | .space _ rest =>
    let later := watch place depth (offset + 1) rest
    ⟨later.result, made ++ later.searches⟩
  | .word kind spelled rest =>
    let later := watch place depth (offset + spelled.length) rest
    ⟨later.result.map (.leaf kind (Text.normal spelled) (place offset) :: ·), made ++ later.searches⟩
  | .group bracket interior rest =>
    let inside := watch place (depth + 1) (offset + 1) interior
    match inside.result with
    | .error e => ⟨.error e, made ++ inside.searches⟩
    | .ok children =>
      let later := watch place depth (offset + (bracket.around interior).length) rest
      ⟨later.result.map (.group bracket children (place offset) :: ·),
        made ++ (inside.searches ++ later.searches)⟩
  termination_by t.length
  decreasing_by
    all_goals rw [head_inspect] at _hhead
    · simp [eq_of_head_space _hhead]
    · obtain ⟨happend, hne⟩ := eq_of_head_word _hhead
      have hpos := List.length_pos_iff.mpr hne
      rw [happend, List.length_append]
      omega
    · rw [eq_of_head_group _hhead]
      simp only [Bracket.around, List.length_append, List.length_cons]
      omega
    · rw [eq_of_head_group _hhead]
      simp only [Bracket.around, List.length_append, List.length_cons]
      omega

/-- A record is given by the head of the text and by the records of what follows it. -/
theorem watch_eq (place : Nat → Position) (depth offset : Nat) (t : Text) :
    watch place depth offset t =
      match head depth t with
      | .done => ⟨.ok [], (inspect depth offset t).searches⟩
      | .fault fault fragment =>
        ⟨.error ⟨fault, fragment, place offset⟩, (inspect depth offset t).searches⟩
      | .space _ rest =>
        ⟨(watch place depth (offset + 1) rest).result,
          (inspect depth offset t).searches ++ (watch place depth (offset + 1) rest).searches⟩
      | .word kind spelled rest =>
        ⟨(watch place depth (offset + spelled.length) rest).result.map
            (.leaf kind (Text.normal spelled) (place offset) :: ·),
          (inspect depth offset t).searches ++
            (watch place depth (offset + spelled.length) rest).searches⟩
      | .group bracket interior rest =>
        match (watch place (depth + 1) (offset + 1) interior).result with
        | .error e =>
          ⟨.error e, (inspect depth offset t).searches ++
            (watch place (depth + 1) (offset + 1) interior).searches⟩
        | .ok children =>
          ⟨(watch place depth (offset + (bracket.around interior).length) rest).result.map
              (.group bracket children (place offset) :: ·),
            (inspect depth offset t).searches ++
              ((watch place (depth + 1) (offset + 1) interior).searches ++
                (watch place depth (offset + (bracket.around interior).length) rest).searches)⟩ := by
  rw [watch]
  dsimp only
  split <;> rename_i hhead <;> rw [head_inspect] at hhead <;> simp only [hhead]

/-- What is read with a record is what is read. -/
theorem result_watch (place : Nat → Position) (depth offset : Nat) (t : Text) :
    (watch place depth offset t).result = formsAt place depth offset t := by
  induction depth, t using text_induction generalizing offset with
  | done depth t hhead => rw [watch_eq, formsAt_eq, hhead]
  | fault depth t fault fragment hhead => rw [watch_eq, formsAt_eq, hhead]
  | space depth t g rest hhead ih =>
    rw [watch_eq, formsAt_eq, hhead]
    exact ih (offset + 1)
  | word depth t kind spelled rest hhead ih =>
    rw [watch_eq, formsAt_eq, hhead]
    dsimp only
    rw [ih]
    cases formsAt place depth (offset + spelled.length) rest <;> rfl
  | group depth t bracket interior rest hhead ihInside ihRest =>
    rw [watch_eq, formsAt_eq, hhead]
    dsimp only
    rw [ihInside]
    cases formsAt place (depth + 1) (offset + 1) interior with
    | error e => rfl
    | ok children =>
      dsimp only
      rw [ihRest]
      cases formsAt place depth (offset + (bracket.around interior).length) rest <;> rfl

/-- A search that succeeds, ends where one of some spans does that starts with it, and passes over none
but these spans. -/
def Search.Ends (spans : List Span) (s : Search) : Prop :=
  ∃ last, s.found = some last ∧ ⟨s.start, last⟩ ∈ spans ∧ s.passed ⊆ spans

/-- A search that ends with one of some spans ends with one of more. -/
theorem Search.Ends.mono {spans more : List Span} {s : Search} (h : s.Ends spans)
    (hsub : spans ⊆ more) : s.Ends more := by
  obtain ⟨last, hfound, hmem, hpassed⟩ := h
  exact ⟨last, hfound, hsub hmem, List.Subset.trans hpassed hsub⟩

/-- Two texts in front of a survey. -/
theorem Survey.prepend_prepend (t u : Text) (spans more : List Span) (strings others : List Search)
    (s : Survey) :
    (s.prepend u more others).prepend t spans strings =
      s.prepend (t ++ u) (spans ++ more) (strings ++ others) := by
  simp only [prepend, Enclosed.prepend_append, List.append_assoc]

/-- A text behind `offset` glyphs in which a search passes over exactly these spans and makes exactly
these searches for the ends of strings, whatever is open around it. -/
def Noted (offset : Nat) (t : Text) (spans : List Span) (strings : List Search) : Prop :=
  ∀ (outer : Bracket) (opened : List (Bracket × Nat)) (u : Text),
    survey outer opened offset (t ++ u) =
      (survey outer opened (offset + t.length) u).prepend t spans strings

/-- Nothing is passed over in the empty text. -/
theorem noted_nil (offset : Nat) : Noted offset [] [] [] :=
  fun _ _ _ => rfl

/-- What is passed over in one text and then in another. -/
theorem Noted.append {offset : Nat} {t u : Text} {spans more : List Span} {strings others : List Search}
    (ht : Noted offset t spans strings) (hu : Noted (offset + t.length) u more others) :
    Noted offset (t ++ u) (spans ++ more) (strings ++ others) := by
  intro outer opened v
  rw [List.append_assoc, ht, hu, Survey.prepend_prepend, List.length_append, Nat.add_assoc]

/-- Glyphs that are no delimiters are no spans. -/
theorem noted_of_forall {offset : Nat} {t : Text} (h : ∀ g ∈ t, g.isDelimiter = false) :
    Noted offset t [] [] := by
  induction t generalizing offset with
  | nil => exact noted_nil offset
  | cons g rest ih =>
    obtain ⟨hg, hrest⟩ := List.forall_mem_cons.mp h
    have hsingle : Noted offset [g] [] [] := fun outer opened u => survey_glyph hg outer opened offset u
    exact hsingle.append (ih hrest)

/-- A string is a span, and its end is looked for. -/
theorem noted_string {body : Text} (h : Quoted body) (offset : Nat) :
    Noted offset (.char '"' :: body) [⟨offset, offset + body.length⟩]
      [⟨offset, some (offset + body.length), []⟩] :=
  fun outer opened u => survey_string h outer opened offset u

/-- Brackets are a span after the spans that they enclose. -/
theorem Noted.around {offset : Nat} {interior : Text} {spans : List Span} {strings : List Search}
    (h : Noted (offset + 1) interior spans strings) (bracket : Bracket) :
    Noted offset (bracket.around interior) (spans ++ [⟨offset, offset + 1 + interior.length⟩])
      strings := by
  intro outer opened u
  have hlength : offset + 1 + interior.length + 1 = offset + (bracket.around interior).length := by
    simp only [Bracket.around, List.length_cons, List.length_append, List.length_nil]
    omega
  rw [Bracket.around, List.cons_append, List.append_assoc, List.singleton_append, survey_opening, h outer,
    survey_closing, hlength]
  simp only [Survey.prepend_prepend, List.append_nil, List.nil_append]
  rfl

/-- What a search does in a text is definite. -/
theorem Noted.unique {offset : Nat} {t : Text} {spans more : List Span} {strings others : List Search}
    (h : Noted offset t spans strings) (hothers : Noted offset t more others) :
    spans = more ∧ strings = others := by
  have hsame := h .round [] []
  rw [hothers .round [] [], survey.eq_def] at hsame
  simp only [Survey.prepend, List.append_nil, Survey.mk.injEq] at hsame
  exact ⟨hsame.2.1.symm, hsame.2.2.symm⟩

/-- The search that a closing bracket ends. -/
theorem Noted.survey_eq {offset : Nat} {interior : Text} {spans : List Span} {strings : List Search}
    (h : Noted offset interior spans strings) {bracket : Bracket} {closer : Glyph}
    (hcloser : closer.role = .closes bracket) (rest : Text) :
    survey bracket [] offset (interior ++ closer :: rest) =
      ⟨.closed interior rest, spans, strings⟩ := by
  rw [h, survey_found hcloser, Survey.prepend, Enclosed.prepend_closed]
  simp only [List.append_nil]

/-- Spans that are opened at different offsets, from `low` on and before `high`. -/
structure Apart (low high : Nat) (spans : List Span) : Prop where
  /-- They are opened between the two offsets. -/
  bounds : ∀ s ∈ spans, low ≤ s.first ∧ s.first < high
  /-- No two are opened at the same offset. -/
  nodup : (spans.map Span.first).Nodup

/-- No spans at all. -/
theorem apart_nil (low high : Nat) : Apart low high [] :=
  ⟨List.forall_mem_nil _, List.nodup_nil⟩

/-- Spans in one stretch of a source and spans in the next. -/
theorem Apart.append {low middle high : Nat} {spans more : List Span} (h : Apart low middle spans)
    (hmore : Apart middle high more) (hlow : low ≤ middle) (hhigh : middle ≤ high) :
    Apart low high (spans ++ more) := by
  have hbounds : ∀ s ∈ spans, low ≤ s.first ∧ s.first < high := by
    intro s hs
    have hfirst := h.bounds s hs
    omega
  have hlater : ∀ s ∈ more, low ≤ s.first ∧ s.first < high := by
    intro s hs
    have hfirst := hmore.bounds s hs
    omega
  refine ⟨List.forall_mem_append.mpr ⟨hbounds, hlater⟩, ?_⟩
  rw [List.map_append]
  refine List.nodup_append.mpr ⟨h.nodup, hmore.nodup, ?_⟩
  intro offset hoffset other hother heq
  obtain ⟨s, hs, rfl⟩ := List.mem_map.mp hoffset
  obtain ⟨s', hs', rfl⟩ := List.mem_map.mp hother
  have hbefore := (h.bounds s hs).2
  have hafter := (hmore.bounds s' hs').1
  omega

/-- A span around the spans of a later stretch. -/
theorem Apart.around {low high last : Nat} {spans : List Span} (h : Apart (low + 1) high spans)
    (hhigh : low < high) : Apart low high (spans ++ [⟨low, last⟩]) := by
  have hbounds : ∀ s ∈ spans, low ≤ s.first ∧ s.first < high := by
    intro s hs
    have hfirst := h.bounds s hs
    omega
  refine ⟨List.forall_mem_append.mpr ⟨hbounds, List.forall_mem_singleton.mpr ?_⟩, ?_⟩
  · dsimp only
    omega
  · rw [List.map_append]
    refine List.nodup_append.mpr ⟨h.nodup, List.nodup_singleton _, ?_⟩
    intro offset hoffset other hother heq
    obtain ⟨s, hs, rfl⟩ := List.mem_map.mp hoffset
    have hfirst := (h.bounds s hs).1
    have hlow : other = low := List.mem_singleton.mp hother
    omega

/-- A search passes over definite spans in a nested text, among them every string that it looks for. -/
theorem Nested.exists_noted {t : Text} (h : Nested t) (offset : Nat) :
    ∃ spans strings, Noted offset t spans strings ∧ Apart offset (offset + t.length) spans ∧
      ∀ s ∈ strings, s.Ends spans := by
  induction h generalizing offset with
  | nil => exact ⟨[], [], noted_nil offset, apart_nil _ _, List.forall_mem_nil _⟩
  | @glyph g rest plain later ih =>
    obtain ⟨spans, strings, hnoted, hapart, hends⟩ := ih (offset + 1)
    have hglyph : Noted offset [g] [] [] := noted_of_forall (List.forall_mem_singleton.mpr plain)
    have hlength : offset + 1 + rest.length = offset + (g :: rest).length := by
      rw [List.length_cons]
      omega
    rw [hlength] at hapart
    exact ⟨[] ++ spans, [] ++ strings, hglyph.append hnoted,
      (apart_nil offset (offset + 1)).append hapart (by omega) (by rw [List.length_cons]; omega), hends⟩
  | @string body rest quoted later ih =>
    obtain ⟨spans, strings, hnoted, hapart, hends⟩ := ih (offset + (Glyph.char '"' :: body).length)
    have hstring : Apart offset (offset + (Glyph.char '"' :: body).length)
        [⟨offset, offset + body.length⟩] := by
      refine (apart_nil (offset + 1) _).around ?_
      rw [List.length_cons]
      omega
    have hlength : offset + (Glyph.char '"' :: body).length + rest.length =
        offset + (Glyph.char '"' :: body ++ rest).length := by
      rw [List.length_append, Nat.add_assoc]
    rw [hlength] at hapart
    refine ⟨_, _, (noted_string quoted offset).append hnoted,
      hstring.append hapart (by omega) (by rw [List.length_append]; omega),
      List.forall_mem_append.mpr ⟨List.forall_mem_singleton.mpr ?_, fun s hs => ?_⟩⟩
    · exact ⟨_, rfl, List.mem_append_left _ List.mem_cons_self, List.nil_subset _⟩
    · exact (hends s hs).mono (List.subset_append_right _ _)
  | @group bracket interior rest inside later ihInside ihLater =>
    obtain ⟨inner, innerStrings, hinner, hinnerApart, hinnerEnds⟩ := ihInside (offset + 1)
    obtain ⟨spans, strings, hnoted, hapart, hends⟩ :=
      ihLater (offset + (bracket.around interior).length)
    have haround : (bracket.around interior).length = interior.length + 2 := by
      simp only [Bracket.around, List.length_cons, List.length_append, List.length_nil]
    have hform : Apart offset (offset + (bracket.around interior).length)
        (inner ++ [⟨offset, offset + 1 + interior.length⟩]) := by
      refine Apart.around ⟨fun s hs => ?_, hinnerApart.nodup⟩ (by omega)
      have hfirst := hinnerApart.bounds s hs
      omega
    have hlength : offset + (bracket.around interior).length + rest.length =
        offset + (bracket.around interior ++ rest).length := by
      rw [List.length_append, Nat.add_assoc]
    rw [hlength] at hapart
    refine ⟨_, _, (hinner.around bracket).append hnoted,
      hform.append hapart (by omega) (by rw [List.length_append]; omega),
      List.forall_mem_append.mpr ⟨fun s hs => ?_, fun s hs => ?_⟩⟩
    · refine (hinnerEnds s hs).mono ?_
      rw [List.append_assoc]
      exact List.subset_append_left _ _
    · exact (hends s hs).mono (List.subset_append_right _ _)

/-- No search is made at a glyph that is no delimiter. -/
theorem inspect_of_not_delimiter {g : Glyph} (h : g.isDelimiter = false) (depth offset : Nat)
    (rest : Text) : (inspect depth offset (g :: rest)).searches = [] := by
  cases hrole : g.role with
  | space => simp only [inspect, hrole]
  | plain =>
    simp only [inspect, hrole]
    cases classify (Text.normal (g :: rest.takeWhile fun h => !h.isSpace)) <;> rfl
  | _ => simp [Glyph.isDelimiter, hrole] at h

/-- The search at the quote that opens a string ends at the quote that closes it. -/
theorem inspect_string {body : Text} (h : Quoted body) (depth offset : Nat) (rest : Text) :
    (inspect depth offset (.char '"' :: body ++ rest)).searches =
      [⟨offset, some (offset + body.length), []⟩] := by
  have hrole : Glyph.role (.char '"') = .quote := rfl
  simp only [List.cons_append, inspect, hrole, closeString_of_quoted h]

/-- The search at a bracket ends at the bracket that closes it and passes over what is noted in between,
if it is made at all. -/
theorem inspect_around {offset : Nat} {interior : Text} {spans : List Span} {strings : List Search}
    (h : Noted (offset + 1) interior spans strings) (bracket : Bracket) (depth : Nat) (rest : Text) :
    (inspect depth offset (bracket.around interior ++ rest)).searches =
      if maxDepth ≤ depth then []
      else ⟨offset, some (offset + 1 + interior.length), spans⟩ :: strings := by
  rw [Bracket.around, List.cons_append, List.append_assoc, List.singleton_append, inspect]
  simp only [bracket.role_opening, h.survey_eq bracket.role_closing]
  split <;> rfl

/-- No search is made where a nested text has a fault at its head. -/
theorem Nested.inspect_of_fault {t : Text} (h : Nested t) {depth : Nat} {fault : ReadFault}
    {fragment : Text} (hhead : head depth t = .fault fault fragment) (offset : Nat) :
    (inspect depth offset t).searches = [] := by
  cases h with
  | nil => cases hhead
  | glyph plain later => exact inspect_of_not_delimiter plain depth offset _
  | string quoted later =>
    rw [head_string depth quoted] at hhead
    cases hhead
  | @group bracket interior rest inside later =>
    obtain ⟨spans, strings, hnoted, -⟩ := inside.exists_noted (offset + 1)
    rw [inspect_around hnoted]
    by_cases hdepth : depth < 256
    · rw [head_group hdepth bracket inside.balanced] at hhead
      cases hhead
    · exact if_pos (Nat.not_lt.mp hdepth)

/-- The searches that are made when a nested text is read end with the spans that a search for a closing
bracket passes over in it, and pass over none but these. -/
theorem Nested.searches_end {t : Text} (h : Nested t) (place : Nat → Position) {depth offset : Nat}
    {spans : List Span} {strings : List Search} (hnoted : Noted offset t spans strings) :
    ∀ s ∈ (watch place depth offset t).searches, s.Ends spans := by
  induction depth, t using text_induction generalizing offset spans strings with
  | done depth t hhead =>
    rw [watch_eq, hhead, eq_nil_of_head_done hhead]
    exact List.forall_mem_nil _
  | fault depth t fault fragment hhead =>
    rw [watch_eq, hhead, h.inspect_of_fault hhead]
    exact List.forall_mem_nil _
  | space depth t g rest hhead ih =>
    have hlater := h.head_cases depth
    rw [hhead] at hlater
    rw [watch_eq, hhead]
    obtain rfl := eq_of_head_space hhead
    have hg : g.isDelimiter = false := by rw [Glyph.isDelimiter, role_of_head_space hhead]
    obtain ⟨later, laterStrings, hlaterNoted, -⟩ := hlater.exists_noted (offset + 1)
    obtain ⟨rfl, -⟩ :=
      hnoted.unique ((noted_of_forall (List.forall_mem_singleton.mpr hg)).append hlaterNoted)
    rw [inspect_of_not_delimiter hg]
    exact ih hlater hlaterNoted
  | word depth t kind spelled rest hhead ih =>
    have hlater := h.head_cases depth
    rw [hhead] at hlater
    rw [watch_eq, hhead]
    obtain ⟨rfl, hne⟩ := eq_of_head_word hhead
    obtain ⟨later, laterStrings, hlaterNoted, -⟩ := hlater.exists_noted (offset + spelled.length)
    have hends := ih hlater hlaterNoted
    rcases head_word_cases hhead with ⟨body, -, rfl, hquoted⟩ | ⟨hplain, -, -⟩
    · obtain ⟨rfl, -⟩ := hnoted.unique ((noted_string hquoted offset).append hlaterNoted)
      rw [inspect_string hquoted]
      refine List.forall_mem_append.mpr ⟨List.forall_mem_singleton.mpr ?_, ?_⟩
      · exact ⟨_, rfl, List.mem_append_left _ List.mem_cons_self, List.nil_subset _⟩
      · exact fun s hs => (hends s hs).mono (List.subset_append_right _ _)
    · have hword : ∀ g ∈ spelled, g.isDelimiter = false :=
        fun g hg => (Glyph.isPlain_iff.mp (hplain g hg)).2
      obtain ⟨rfl, -⟩ := hnoted.unique ((noted_of_forall hword).append hlaterNoted)
      cases spelled with
      | nil => exact absurd rfl hne
      | cons g more =>
        rw [List.cons_append, inspect_of_not_delimiter (hword g List.mem_cons_self)]
        exact hends
  | group depth t bracket interior rest hhead ihInside ihRest =>
    have hlater := h.head_cases depth
    rw [hhead] at hlater
    have hinside := nested_of_head_group hhead
    have hdepth : ¬ maxDepth ≤ depth := Nat.not_le.mpr (shallow_of_head_group hhead)
    rw [watch_eq, hhead]
    obtain rfl := eq_of_head_group hhead
    obtain ⟨inner, innerStrings, hinnerNoted, -, hinnerEnds⟩ := hinside.exists_noted (offset + 1)
    obtain ⟨later, laterStrings, hlaterNoted, -⟩ :=
      hlater.exists_noted (offset + (bracket.around interior).length)
    obtain ⟨rfl, -⟩ := hnoted.unique ((hinnerNoted.around bracket).append hlaterNoted)
    -- What ends inside the brackets ends with one of all spans.
    have hinner : inner ⊆ inner ++ [⟨offset, offset + 1 + interior.length⟩] ++ later := by
      rw [List.append_assoc]
      exact List.subset_append_left _ _
    have hmade : ∀ s ∈ (inspect depth offset (bracket.around interior ++ rest)).searches,
        s.Ends (inner ++ [⟨offset, offset + 1 + interior.length⟩] ++ later) := by
      rw [inspect_around hinnerNoted, if_neg hdepth]
      refine List.forall_mem_cons.mpr ⟨⟨_, rfl, by simp, hinner⟩, fun s hs => ?_⟩
      exact (hinnerEnds s hs).mono hinner
    have hwithin : ∀ s ∈ (watch place (depth + 1) (offset + 1) interior).searches,
        s.Ends (inner ++ [⟨offset, offset + 1 + interior.length⟩] ++ later) :=
      fun s hs => (ihInside hinside hinnerNoted s hs).mono hinner
    dsimp only
    split
    · exact List.forall_mem_append.mpr ⟨hmade, hwithin⟩
    · refine List.forall_mem_append.mpr ⟨hmade, List.forall_mem_append.mpr ⟨hwithin, fun s hs => ?_⟩⟩
      exact (ihRest hlater hlaterNoted s hs).mono (List.subset_append_right _ _)

/-- What reading a nested text can be refused with, in the words of messages. -/
def innerReasons : List Text :=
  ["stray delimiter in token", "integer literal out of range", "malformed number",
    "nesting deeper than 256"].map Text.ofString

/-- What reading is refused with where brackets or strings are not in order, in the words of messages. -/
def outerReasons : List Text :=
  ["unexpected closing delimiter", "mismatched closing delimiter", "unterminated string",
    "unterminated list", "unterminated vector"].map Text.ofString

/-- The causes for which a nested text cannot be read are told apart from the others by their words. -/
theorem reason_of_mem_innerFaults : ∀ fault ∈ innerFaults, fault.isIncomplete = false ∧
    fault.reason ∈ innerReasons ∧ fault.reason ∉ outerReasons := by
  decide +kernel

end Reader

/-- The part of a text from one offset up to another. -/
def Text.slice (t : Text) (start stop : Nat) : Text :=
  (t.take stop).drop start

namespace Reader

/-- The offset of the bracket that closes the one at `start`, if it is found before `stop`. -/
def closerAt? (source : Text) (start stop : Nat) : Option Nat :=
  match source[start]?.map Glyph.role with
  | some (.opens bracket) =>
    match enclose bracket .code [] (source.slice (start + 1) stop) with
    | .closed interior _ => some (start + 1 + interior.length)
    | _ => none
  | _ => none

/-- A closing bracket is found at the end of what it encloses. -/
theorem exists_of_closerAt? {source : Text} {start stop closeAt : Nat}
    (h : closerAt? source start stop = some closeAt) :
    ∃ bracket after, source[start]? = some bracket.opening ∧
      enclose bracket .code [] (source.slice (start + 1) stop) =
        .closed (source.slice (start + 1) closeAt) after := by
  unfold closerAt? at h
  split at h
  · rename_i bracket hrole
    obtain ⟨g, hg, hrole⟩ := Option.map_eq_some_iff.mp hrole
    cases henclose : enclose bracket .code [] (source.slice (start + 1) stop) with
    | closed interior after =>
      simp only [henclose, Option.some.injEq] at h
      -- The interior is the start of the searched text, so it ends where the bracket stands.
      obtain ⟨closer, happend, -⟩ := append_of_enclose henclose
      have hlength := congrArg List.length happend
      simp only [Text.slice, List.length_append, List.length_cons, List.length_drop,
        List.length_take] at hlength
      have hbefore : min (start + 1 + interior.length) stop = closeAt := by omega
      have hinterior : source.slice (start + 1) closeAt = interior := by
        calc source.slice (start + 1) closeAt
            = (source.slice (start + 1) stop).take interior.length := by
              rw [Text.slice, Text.slice, List.take_drop, List.take_take, hbefore]
          _ = interior := by rw [happend, List.take_left]
      exact ⟨bracket, after, by rw [hg, Glyph.eq_opening hrole], by rw [hinterior, henclose]⟩
    | openString => simp [henclose] at h
    | openForm => simp [henclose] at h
    | mismatched seen => simp [henclose] at h
  · cases h

/-- If the bracket that closes one in a source is found, what the two enclose can be refused for a word
or for its depth only, and never for a bracket or a string that is not closed, or closed where it should
not be. Every search that is made when it is read succeeds, ends where the first search passed over the
string or the brackets in question, of which no two are opened at one offset, and passes over nothing
that the first search did not pass over. -/
theorem closerAt_certified {source : Text} {start stop closeAt : Nat}
    (h : closerAt? source start stop = some closeAt) (depth : Nat) :
    (∀ e, formsAt (LineTable.ofText source).position (depth + 1) (start + 1)
        (source.slice (start + 1) closeAt) = .error e →
      e.fault.isIncomplete = false ∧ e.fault.reason ∈ innerReasons ∧ e.fault.reason ∉ outerReasons) ∧
    ∃ bracket after spans strings searches, source[start]? = some bracket.opening ∧
      enclose bracket .code [] (source.slice (start + 1) stop) =
        .closed (source.slice (start + 1) closeAt) after ∧
      survey bracket [] (start + 1) (source.slice (start + 1) stop) =
        ⟨.closed (source.slice (start + 1) closeAt) after, spans, strings⟩ ∧
      (spans.map Span.first).Nodup ∧
      watch (LineTable.ofText source).position (depth + 1) (start + 1)
          (source.slice (start + 1) closeAt) =
        ⟨formsAt (LineTable.ofText source).position (depth + 1) (start + 1)
          (source.slice (start + 1) closeAt), searches⟩ ∧
      ∀ s ∈ searches, s.Ends spans := by
  obtain ⟨bracket, after, hopening, henclose⟩ := exists_of_closerAt? h
  have hnested : Nested (source.slice (start + 1) closeAt) := passed_of_enclose henclose
  obtain ⟨spans, strings, hnoted, hapart, -⟩ := hnested.exists_noted (start + 1)
  obtain ⟨closer, happend, hcloser⟩ := append_of_enclose henclose
  have hsurvey := hnoted.survey_eq hcloser after
  rw [← happend] at hsurvey
  have hwatch : watch (LineTable.ofText source).position (depth + 1) (start + 1)
      (source.slice (start + 1) closeAt) =
        ⟨formsAt (LineTable.ofText source).position (depth + 1) (start + 1)
          (source.slice (start + 1) closeAt), (watch (LineTable.ofText source).position (depth + 1)
          (start + 1) (source.slice (start + 1) closeAt)).searches⟩ := by
    rw [← result_watch]
  refine ⟨fun e he => ?_, bracket, after, spans, strings, _, hopening, henclose, hsurvey, hapart.nodup,
    hwatch, hnested.searches_end _ hnoted⟩
  exact reason_of_mem_innerFaults e.fault (hnested.mem_innerFaults he)

/-- A call with a string in which a bracket stands, a vector with a string in it, and a word with brackets
in it. -/
def gluedCall : Text :=
  "(a \"b)\" [c (d) \"s\"] e(f)) x"

/-- The searches that are made when the inside of that call is read: for the first string; for the bracket
that closes the vector and on the way for its string; inside the vector for the closing bracket and again
for the string. -/
def gluedCallSearches : List Search :=
  [⟨3, some 6, []⟩, ⟨8, some 18, [⟨11, 13⟩, ⟨15, 17⟩]⟩, ⟨15, some 17, []⟩, ⟨11, some 13, []⟩,
    ⟨15, some 17, []⟩]

/-- The call is closed at its last bracket. Reading it stops at the word with brackets, after the strings
and the inner brackets have been found closed where the first search passed over them. -/
theorem closerAt_gluedCall :
    closerAt? gluedCall 0 27 = some 24 ∧
      formsAt (LineTable.ofText gluedCall).position 1 1 (gluedCall.slice 1 24) =
        .error ⟨.strayDelimiter, "e(f)", ⟨20, 1, 21⟩⟩ ∧
      ReadFault.isIncomplete .strayDelimiter = false ∧
      ∃ spans strings, survey .round [] 1 (gluedCall.slice 1 27) =
          ⟨.closed (gluedCall.slice 1 24) " x", spans, strings⟩ ∧
        ∀ s ∈ gluedCallSearches, s.Ends spans := by
  have hcloser : closerAt? gluedCall 0 27 = some 24 := by
    with_unfolding_all rfl
  have hread : formsAt (LineTable.ofText gluedCall).position 1 1 (gluedCall.slice 1 24) =
      .error ⟨.strayDelimiter, "e(f)", ⟨20, 1, 21⟩⟩ := by
    with_unfolding_all rfl
  have hsearches : (watch (LineTable.ofText gluedCall).position 1 1 (gluedCall.slice 1 24)).searches =
      gluedCallSearches := by
    with_unfolding_all rfl
  obtain ⟨hfaults, bracket, after, spans, strings, searches, hopening, -, hsurvey, -, hwatch, hends⟩ :=
    closerAt_certified hcloser 0
  have hmade : gluedCallSearches = searches :=
    hsearches.symm.trans (congrArg Trace.searches hwatch)
  refine ⟨hcloser, hread, (hfaults _ hread).1, spans, strings, ?_, hmade ▸ hends⟩
  cases bracket with
  | round =>
    have hafter := congrArg Survey.outcome hsurvey
    rw [outcome_survey] at hafter
    cases hafter
    exact hsurvey
  | square => cases hopening

end Reader

end SwiftForms
