import SwiftForms.Proofs.Form.Grammar

/-!
# What brackets enclose

The search for a closing bracket looks at every glyph in between, so what it leaves behind is in order:
each string in it is closed, and each bracket is closed by one of its own kind. Main statement: reading
such a text can fail at a word or at a bracket that is too deep, but never because of a bracket or a
string that is not closed, or closed where it should not be.
-/

namespace SwiftForms

namespace Reader

/-- A text in which each string is closed and each bracket is closed by one of its kind. -/
inductive Nested : Text → Prop
  /-- The empty text. -/
  | nil : Nested []
  /-- A glyph that is no delimiter. -/
  | glyph {g rest} (plain : g.isDelimiter = false) (later : Nested rest) : Nested (g :: rest)
  /-- A string. -/
  | string {body rest} (quoted : Quoted body) (later : Nested rest) :
    Nested (.char '"' :: body ++ rest)
  /-- Brackets and what they enclose. -/
  | group {bracket interior rest} (inside : Nested interior) (later : Nested rest) :
    Nested (Bracket.around bracket interior ++ rest)

/-- The search for a closing bracket passes over nested texts. -/
theorem Nested.balanced {t : Text} (h : Nested t) : Balanced t := by
  induction h with
  | nil => exact balanced_nil
  | glyph plain later ih => exact (balanced_singleton plain).append ih
  | string quoted later ih => exact (balanced_string quoted).append ih
  | group inside later ihInside ihLater => exact (ihInside.around _).append ihLater

/-- A text that closes some open brackets, innermost first, and is nested before, between and after the
brackets that close them. -/
def Closes : List Bracket → Text → Prop
  | [], t => Nested t
  | bracket :: outer, t =>
    ∃ first rest, t = first ++ bracket.closing :: rest ∧ Nested first ∧ Closes outer rest

/-- What may stand in front of nested texts may stand in front of texts that close open brackets. -/
theorem Closes.prepend {front : Text} (hfront : ∀ t, Nested t → Nested (front ++ t))
    {opened : List Bracket} {t : Text} (h : Closes opened t) : Closes opened (front ++ t) := by
  cases opened with
  | nil => exact hfront t h
  | cons bracket outer =>
    obtain ⟨first, rest, rfl, hfirst, hrest⟩ := h
    exact ⟨front ++ first, rest, by rw [List.append_assoc], hfront first hfirst, hrest⟩

/-- A text that closes one bracket more closes the others with that bracket in front. -/
theorem Closes.opening {bracket : Bracket} {opened : List Bracket} {t : Text}
    (h : Closes (bracket :: opened) t) : Closes opened (bracket.opening :: t) := by
  obtain ⟨first, rest, rfl, hfirst, hrest⟩ := h
  have htext : bracket.opening :: (first ++ bracket.closing :: rest) = bracket.around first ++ rest := by
    simp [Bracket.around]
  rw [htext]
  exact hrest.prepend fun _ => .group hfirst

/-- A text that a search goes over: the rest of a string, if it starts inside one, and then a text that
closes the open brackets. -/
def Passed (mode : Mode) (opened : List Bracket) (t : Text) : Prop :=
  match mode with
  | .code => Closes opened t
  | .quoted => ∃ body rest, t = body ++ rest ∧ Quoted body ∧ Closes opened rest
  | .escaped => ∃ g body rest, t = g :: (body ++ rest) ∧ Quoted body ∧ Closes opened rest

/-- A glyph at which the search goes on keeps a text one that the search goes over. -/
theorem Passed.cons {outer : Bracket} {mode mode' : Mode} {opened opened' : List Bracket} {g : Glyph}
    {t : Text} (hturn : turn outer mode opened g = .onward mode' opened')
    (h : Passed mode' opened' t) : Passed mode opened (g :: t) := by
  cases mode with
  | escaped =>
    cases hturn
    obtain ⟨body, rest, rfl, hbody, hrest⟩ := h
    exact ⟨g, body, rest, rfl, hbody, hrest⟩
  | quoted =>
    rw [turn] at hturn
    split at hturn
    · next hescape =>
      cases hturn
      obtain ⟨next, body, rest, rfl, hbody, hrest⟩ := h
      exact ⟨g :: next :: body, rest, rfl, hescape ▸ .escape next hbody, hrest⟩
    · next hescape =>
      split at hturn
      · next hquote =>
        cases hturn
        exact ⟨[g], t, rfl, hquote ▸ .close, h⟩
      · next hquote =>
        cases hturn
        obtain ⟨body, rest, rfl, hbody, hrest⟩ := h
        exact ⟨g :: body, rest, rfl, .glyph hquote hescape hbody, hrest⟩
  | code =>
    have hfront : g.isDelimiter = false → ∀ t, Nested t → Nested ([g] ++ t) := fun hg _ => .glyph hg
    cases hrole : g.role with
    | space =>
      simp only [turn, hrole] at hturn
      cases hturn
      exact h.prepend (hfront (by rw [Glyph.isDelimiter, hrole]))
    | plain =>
      simp only [turn, hrole] at hturn
      cases hturn
      exact h.prepend (hfront (by rw [Glyph.isDelimiter, hrole]))
    | quote =>
      simp only [turn, hrole] at hturn
      cases hturn
      obtain ⟨body, rest, rfl, hbody, hrest⟩ := h
      rw [Glyph.eq_quote hrole]
      exact hrest.prepend fun _ => .string hbody
    | opens bracket =>
      simp only [turn, hrole] at hturn
      cases hturn
      rw [Glyph.eq_opening hrole]
      exact Closes.opening h
    | closes bracket =>
      cases opened with
      | nil =>
        simp only [turn, hrole] at hturn
        split at hturn <;> cases hturn
      | cons top more =>
        simp only [turn, hrole] at hturn
        split at hturn
        · next htop =>
          cases hturn
          rw [Glyph.eq_closing hrole, htop]
          exact ⟨[], t, rfl, .nil, h⟩
        · cases hturn

/-- A search finds the bracket only outside strings and with no other bracket open. -/
theorem eq_of_turn_found {outer : Bracket} {mode : Mode} {opened : List Bracket} {g : Glyph}
    (h : turn outer mode opened g = .found) : mode = .code ∧ opened = [] := by
  unfold turn at h
  grind

/-- A search that succeeds goes over all that stands before the bracket. -/
theorem passed_of_enclose {outer : Bracket} {mode : Mode} {opened : List Bracket}
    {t interior rest : Text} (h : enclose outer mode opened t = .closed interior rest) :
    Passed mode opened interior := by
  induction t generalizing mode opened interior with
  | nil => cases mode <;> cases h
  | cons g tail ih =>
    rw [enclose_cons] at h
    cases hturn : turn outer mode opened g with
    | onward mode' opened' =>
      rw [hturn] at h
      obtain ⟨inside, rfl, hinside⟩ := Enclosed.cons_eq_closed h
      exact (ih hinside).cons hturn
    | found =>
      rw [hturn] at h
      cases h
      obtain ⟨rfl, rfl⟩ := eq_of_turn_found hturn
      exact .nil
    | wrong =>
      rw [hturn] at h
      cases h

/-- What the brackets of a form enclose is nested. -/
theorem nested_of_head_group {depth : Nat} {t interior rest : Text} {bracket : Bracket}
    (h : head depth t = .group bracket interior rest) : Nested interior := by
  cases t with
  | nil => cases h
  | cons g tail =>
    rw [head] at h
    cases hrole : g.role with
    | opens kind =>
      simp only [hrole] at h
      split at h
      · cases h
      · cases henclose : enclose kind .code [] tail with
        | closed inside after =>
          simp only [henclose, Head.group.injEq] at h
          obtain ⟨-, rfl, -⟩ := h
          exact passed_of_enclose henclose
        | openString => simp [henclose] at h
        | openForm => simp [henclose] at h
        | mismatched seen => simp [henclose] at h
    | space => simp [hrole] at h
    | closes kind => simp [hrole] at h
    | quote => grind
    | plain => grind

/-- What follows glyphs that are no delimiters in a nested text is nested. -/
theorem Nested.of_append {run rest : Text} (hrun : ∀ g ∈ run, g.isDelimiter = false)
    (h : Nested (run ++ rest)) : Nested rest := by
  induction run with
  | nil => exact h
  | cons g more ih =>
    obtain ⟨hg, hmore⟩ := List.forall_mem_cons.mp hrun
    refine ih hmore ?_
    generalize hwhole : g :: more ++ rest = whole at h
    cases h with
    | nil => cases hwhole
    | glyph plain later =>
      cases hwhole
      exact later
    | string quoted later =>
      rw [(List.cons.inj hwhole).1] at hg
      cases hg
    | @group bracket interior after inside later =>
      rw [(List.cons.inj hwhole).1, Glyph.isDelimiter, bracket.role_opening] at hg
      cases hg

/-- The causes for which a nested text cannot be read: a word, or brackets that are too deep. -/
def innerFaults : List ReadFault :=
  [.tooDeep, .strayDelimiter, .integerRange, .malformedNumber]

/-- None of these causes is an open end. -/
theorem isIncomplete_of_mem_innerFaults : ∀ fault ∈ innerFaults, fault.isIncomplete = false := by
  decide

/-- A word that is refused is refused for a cause of its own. -/
theorem mem_innerFaults_of_classify {word : Text} {fault : ReadFault}
    (h : classify word = .error fault) : fault ∈ innerFaults := by
  unfold classify at h
  grind [innerFaults]

/-- At the head of a nested text stands a fault of a word or of the depth, or something after which the
text is nested. -/
theorem Nested.head_cases {t : Text} (h : Nested t) (depth : Nat) :
    match head depth t with
    | .done => True
    | .space _ rest => Nested rest
    | .fault fault _ => fault ∈ innerFaults
    | .word _ _ rest => Nested rest
    | .group _ _ rest => Nested rest := by
  cases h with
  | nil => trivial
  | @glyph g rest plain later =>
    cases hrole : g.role with
    | space => simpa only [head, hrole] using later
    | plain =>
      simp only [head, hrole]
      cases hkind : classify (Text.normal (g :: rest.takeWhile fun h => !h.isSpace)) with
      | error fault => exact mem_innerFaults_of_classify hkind
      | ok kind =>
        have hword : ∀ h ∈ rest.takeWhile (fun h => !h.isSpace), h.isDelimiter = false := by
          intro h hh
          rw [← h.isDelimiter_normal]
          exact (classify_eq_ok_iff.mp hkind).1 _ (List.mem_map_of_mem (List.mem_cons_of_mem g hh))
        refine Nested.of_append hword ?_
        rw [List.takeWhile_append_dropWhile]
        exact later
    | _ => simp [Glyph.isDelimiter, hrole] at plain
  | string quoted later => rwa [head_string depth quoted]
  | @group bracket interior rest inside later =>
    by_cases hdepth : depth < 256
    · rwa [head_group hdepth bracket inside.balanced]
    · have htext : bracket.around interior ++ rest =
          bracket.opening :: (interior ++ bracket.closing :: rest) := by
        simp [Bracket.around]
      have hdeep : maxDepth ≤ depth := Nat.not_lt.mp hdepth
      simp only [htext, head, bracket.role_opening, if_pos hdeep]
      decide

/-- A nested text that cannot be read is refused for a word or for its depth. -/
theorem Nested.mem_innerFaults {place : Nat → Position} {depth offset : Nat} {t : Text} (h : Nested t)
    {e : ReadError} (he : formsAt place depth offset t = .error e) : e.fault ∈ innerFaults := by
  have hcases := h.head_cases depth
  induction depth, t using text_induction generalizing offset with
  | done depth t hhead =>
    rw [formsAt_eq, hhead] at he
    cases he
  | fault depth t fault fragment hhead =>
    rw [formsAt_eq, hhead] at he
    rw [hhead] at hcases
    cases he
    exact hcases
  | space depth t g rest hhead ih =>
    rw [formsAt_eq, hhead] at he
    rw [hhead] at hcases
    exact ih hcases he (hcases.head_cases depth)
  | word depth t kind spelled rest hhead ih =>
    rw [formsAt_eq, hhead] at he
    rw [hhead] at hcases
    rcases Fallible.bind_eq_error.mp he with hrest | ⟨forms, -, hforms⟩
    · exact ih hcases hrest (hcases.head_cases depth)
    · cases hforms
  | group depth t bracket interior rest hhead ihInside ihRest =>
    rw [formsAt_eq, hhead] at he
    rw [hhead] at hcases
    rcases Fallible.bind_eq_error.mp he with hinside | ⟨children, -, hlater⟩
    · have hnested := nested_of_head_group hhead
      exact ihInside hnested hinside (hnested.head_cases (depth + 1))
    · rcases Fallible.bind_eq_error.mp hlater with hrest | ⟨forms, -, hforms⟩
      · exact ihRest hcases hrest (hcases.head_cases depth)
      · cases hforms

end Reader

end SwiftForms
