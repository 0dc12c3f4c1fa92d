import SwiftForms.Proofs.Console.Batch
import SwiftForms.Proofs.Form.Nesting

/-!
# Inputs that more lines can end

The console goes on asking for lines while its input ends inside something open. Main statement: it is
right to do so and right to stop. An input that ends inside something open is ended by some further line,
for better or worse; an input that is refused for any other cause is refused for that cause whatever
follows it.
-/

namespace SwiftForms

/-- The other kind of brackets. -/
def Bracket.other : Bracket → Bracket
  | .round => .square
  | .square => .round

namespace Reader

/-- A line that ends a search for a closing bracket: a quote, if the search stands inside a string, and
then a bracket of the wrong kind. -/
def endingLine (outer : Bracket) (mode : Mode) (opened : List Bracket) : Text :=
  let wrong := (opened.headD outer).other.closing
  match mode with
  | .code => [wrong]
  | _ => [.char '"', wrong]

/-- An ending line is a single line. -/
theorem newline_not_mem_endingLine (outer : Bracket) (mode : Mode) (opened : List Bracket) :
    newline ∉ endingLine outer mode opened := by
  unfold endingLine
  cases mode <;> cases opened.headD outer <;> decide

/-- A bracket of the wrong kind ends a search. -/
theorem enclose_other (outer : Bracket) (opened : List Bracket) (rest : Text) :
    enclose outer .code opened ((opened.headD outer).other.closing :: rest) =
      .mismatched [(opened.headD outer).other.closing] := by
  cases opened with
  | nil => cases outer <;> rfl
  | cons bracket more => cases bracket <;> rfl

/-- An ending line on the next line ends a search. -/
theorem enclose_endingLine (outer : Bracket) (mode : Mode) (opened : List Bracket) :
    enclose outer mode opened (newline :: endingLine outer mode opened) =
      .mismatched (newline :: endingLine outer mode opened) := by
  have hwrong := enclose_other outer opened []
  have hquote := congrArg (fun e => (Enclosed.cons (.char '"') e).cons newline) hwrong
  cases mode with
  | code => exact congrArg (Enclosed.cons newline) hwrong
  | quoted => exact hquote
  | escaped => exact hquote

/-- A search that the end of the text has cut off is ended by some line. -/
theorem exists_line_of_open {outer : Bracket} {mode : Mode} {opened : List Bracket} {t : Text}
    (h : enclose outer mode opened t = .openString ∨ enclose outer mode opened t = .openForm) :
    ∃ line seen, newline ∉ line ∧
      enclose outer mode opened (t ++ newline :: line) = .mismatched seen := by
  induction t generalizing mode opened with
  | nil =>
    exact ⟨_, _, newline_not_mem_endingLine outer mode opened, enclose_endingLine outer mode opened⟩
  | cons g tail ih =>
    rw [enclose_cons] at h
    cases hturn : turn outer mode opened g with
    | onward mode' opened' =>
      have hlater : enclose outer mode' opened' tail = .openString ∨
          enclose outer mode' opened' tail = .openForm := by
        simp only [hturn] at h
        cases hsearch : enclose outer mode' opened' tail <;> simp [hsearch, Enclosed.cons] at h ⊢
      obtain ⟨line, seen, hline, hseen⟩ := ih hlater
      refine ⟨line, g :: seen, hline, ?_⟩
      rw [List.cons_append, enclose_cons, hturn]
      dsimp only
      rw [hseen]
      rfl
    | found => simp [hturn] at h
    | wrong => simp [hturn] at h

/-- A quote on the next line closes a string that the end of the text has cut off. -/
theorem closeString_append_quote {t : Text} (h : closeString t = none) :
    closeString (t ++ [newline, .char '"']) = some (t ++ [newline, .char '"'], []) := by
  fun_induction closeString t with
  | case1 => rfl
  | case2 tail => cases h
  | case3 g tail ih =>
    simp only [List.cons_append, closeString, ih (Option.map_eq_none_iff.mp h), Option.map_some]
  | case4 g tail hquote hescape ih =>
    have hlater := ih (Option.map_eq_none_iff.mp h)
    cases tail with
    | nil =>
      by_cases hg : g = .char '\\'
      · subst hg
        rfl
      · rw [List.cons_append, closeString.eq_4 g _ hquote fun _ _ hescape _ => hg hescape, hlater]
        rfl
    | cons next others =>
      rw [List.cons_append,
        closeString.eq_4 g _ hquote fun _ _ hg _ => hescape next others hg rfl, hlater]
      rfl

/-- An open end at the head of a text is ended by some line: it closes the string, or it has a bracket
of the wrong kind. -/
theorem exists_line_of_head {depth : Nat} (hdepth : depth < maxDepth) {t fragment : Text}
    {fault : ReadFault} (h : head depth t = .fault fault fragment)
    (hincomplete : fault.isIncomplete = true) :
    ∃ line, newline ∉ line ∧
      ((∃ spelled, head depth (t ++ newline :: line) = .word .string spelled []) ∨
        ∃ seen, head depth (t ++ newline :: line) = .fault .mismatchedCloser seen) := by
  cases t with
  | nil => cases h
  | cons g rest =>
    cases hrole : g.role with
    | space => simp [head, hrole] at h
    | closes bracket =>
      simp only [head, hrole, Head.fault.injEq] at h
      obtain ⟨rfl, -⟩ := h
      cases hincomplete
    | quote =>
      cases hclose : closeString rest with
      | none =>
        refine ⟨[.char '"'], by decide, .inl ⟨g :: (rest ++ [newline, .char '"']), ?_⟩⟩
        simp only [List.cons_append, head, hrole, closeString_append_quote hclose]
      | some pair => simp [head, hrole, hclose] at h
    | opens bracket =>
      simp only [head, hrole, if_neg (Nat.not_le.mpr hdepth)] at h
      have hopen : enclose bracket .code [] rest = .openString ∨
          enclose bracket .code [] rest = .openForm := by
        cases hsearch : enclose bracket .code [] rest with
        | closed interior after => simp [hsearch] at h
        | openString => exact .inl rfl
        | openForm => exact .inr rfl
        | mismatched seen =>
          simp only [hsearch, Head.fault.injEq] at h
          obtain ⟨rfl, -⟩ := h
          cases hincomplete
      obtain ⟨line, seen, hline, hseen⟩ := exists_line_of_open hopen
      refine ⟨line, hline, .inr ⟨Text.normal (g :: seen), ?_⟩⟩
      simp only [List.cons_append, head, hrole, if_neg (Nat.not_le.mpr hdepth), hseen]
    | plain =>
      simp only [head, hrole] at h
      cases hkind : classify (Text.normal (g :: rest.takeWhile fun h => !h.isSpace)) with
      | ok kind => simp [hkind] at h
      | error fault' =>
        simp only [hkind, Head.fault.injEq] at h
        obtain ⟨rfl, -⟩ := h
        rw [isIncomplete_of_mem_innerFaults _ (mem_innerFaults_of_classify hkind)] at hincomplete
        cases hincomplete

/-- A reading that does not end inside something open: it succeeds, or it fails for another cause. -/
def Ended (outcome : Except ReadError (List Form)) : Prop :=
  ∀ e, outcome = .error e → e.fault.isIncomplete = false

/-- Reading on after something that has been read ends if the rest does. -/
theorem Ended.bind {outcome : Except ReadError (List Form)} (h : Ended outcome)
    (f : List Form → List Form) : Ended (outcome >>= fun forms => pure (f forms)) := by
  intro e he
  rcases Fallible.bind_eq_error.mp he with herror | ⟨forms, -, hforms⟩
  · exact h e herror
  · cases hforms

/-- A text that ends inside something open is ended by some line. -/
theorem exists_line_of_readForms {depth : Nat} (hdepth : depth < maxDepth) {pos : Position} {t : Text}
    {e : ReadError} (h : readForms depth pos t = .error e) (hincomplete : e.fault.isIncomplete = true) :
    ∃ line, newline ∉ line ∧ Ended (readForms depth pos (t ++ newline :: line)) := by
  induction depth, pos, t using head_induction with
  | done depth pos t hhead =>
    rw [readForms_eq, hhead] at h
    cases h
  | fault depth pos t fault fragment hhead =>
    rw [readForms_eq, hhead] at h
    cases h
    obtain ⟨line, hline, ⟨spelled, hword⟩ | ⟨seen, hfault⟩⟩ :=
      exists_line_of_head hdepth hhead hincomplete
    · refine ⟨line, hline, fun again hagain => ?_⟩
      rw [readForms_eq, hword] at hagain
      dsimp only at hagain
      rw [readForms_nil] at hagain
      cases hagain
    · refine ⟨line, hline, fun again hagain => ?_⟩
      rw [readForms_eq, hfault] at hagain
      cases hagain
      rfl
  | space depth pos t g rest hhead ih =>
    rw [readForms_eq, hhead] at h
    obtain ⟨line, hline, hended⟩ := ih hdepth h
    refine ⟨line, hline, ?_⟩
    rw [readForms_eq, head_append_newline (by simp [hhead]), hhead]
    exact hended
  | word depth pos t kind spelled rest hhead ih =>
    rw [readForms_eq, hhead] at h
    rcases Fallible.bind_eq_error.mp h with hrest | ⟨forms, -, hforms⟩
    · obtain ⟨line, hline, hended⟩ := ih hdepth hrest
      refine ⟨line, hline, ?_⟩
      rw [readForms_eq, head_append_newline (by simp [hhead]), hhead]
      exact hended.bind _
    · cases hforms
  | group depth pos t bracket interior rest hhead ihInside ihRest =>
    rw [readForms_eq, hhead] at h
    rcases Fallible.bind_eq_error.mp h with hinside | ⟨children, hchildren, hlater⟩
    · -- What two brackets enclose never ends inside something open.
      have hmem := (nested_of_head_group hhead).mem_innerFaults hinside
      rw [isIncomplete_of_mem_innerFaults _ hmem] at hincomplete
      cases hincomplete
    · rcases Fallible.bind_eq_error.mp hlater with hrest | ⟨forms, -, hforms⟩
      · obtain ⟨line, hline, hended⟩ := ihRest hdepth hrest
        refine ⟨line, hline, ?_⟩
        rw [readForms_eq, head_append_newline (by simp [hhead]), hhead]
        dsimp only [Head.followedBy]
        rw [hchildren]
        exact hended.bind _
      · cases hforms

end Reader

/-- An input that is refused must not be continued if it does not end inside something open. -/
theorem not_needsMore_of_ended {input : Text} (h : Reader.Ended (read input)) :
    needsMore input = false := by
  by_contra hmore
  obtain ⟨e, he, hincomplete⟩ := Console.exists_of_needsMore (Bool.not_eq_false _ ▸ hmore)
  rw [h e he] at hincomplete
  cases hincomplete

/-- A text is refused with the same error whatever follows on further lines, unless it ends inside
something open; then some further line makes it readable or refused for another cause. So the console
never asks for lines without one that it would stop at, and it never stops at an input, other than a
command, that further lines could mend. -/
theorem read_error_continued {t : Text} {e : ReadError} (h : read t = .error e) :
    (e.fault.isIncomplete = false → ∀ u, read (t ++ newline :: u) = .error e) ∧
    (e.fault.isIncomplete = true →
      ∃ line, newline ∉ line ∧
        ((∃ forms, read (t ++ newline :: line) = .ok forms) ∨
          ∃ again, read (t ++ newline :: line) = .error again ∧ again.fault.isIncomplete = false)) ∧
    (needsMore t = true → ∃ line, newline ∉ line ∧ needsMore (t ++ newline :: line) = false) ∧
    (needsMore t = false →
      t.trim.startsWith ":" = true ∨ ∀ u, read (t ++ newline :: u) = .error e) := by
  have hstays : e.fault.isIncomplete = false → ∀ u, read (t ++ newline :: u) = .error e :=
    fun hcomplete u => read_error_append_newline h hcomplete u
  have hline : e.fault.isIncomplete = true →
      ∃ line, newline ∉ line ∧ Reader.Ended (read (t ++ newline :: line)) := by
    intro hincomplete
    rw [read_eq] at h
    obtain ⟨line, hnewline, hended⟩ := Reader.exists_line_of_readForms (by decide) h hincomplete
    refine ⟨line, hnewline, ?_⟩
    rw [read_eq]
    exact hended
  refine ⟨hstays, ?_, ?_, ?_⟩
  · intro hincomplete
    obtain ⟨line, hnewline, hended⟩ := hline hincomplete
    refine ⟨line, hnewline, ?_⟩
    cases hread : read (t ++ newline :: line) with
    | ok forms => exact .inl ⟨forms, rfl⟩
    | error again => exact .inr ⟨again, rfl, hended again hread⟩
  · intro hmore
    obtain ⟨e', he', hincomplete⟩ := Console.exists_of_needsMore hmore
    rw [h] at he'
    cases he'
    obtain ⟨line, hnewline, hended⟩ := hline hincomplete
    exact ⟨line, hnewline, not_needsMore_of_ended hended⟩
  · intro hmore
    by_cases hcommand : t.trim.startsWith ":" = true
    · exact .inl hcommand
    · rw [needsMore, if_neg hcommand, h] at hmore
      exact .inr (hstays hmore)

/-- A call that ends inside a string, just after a backslash, is ended by a line; a call with a word
that starts like a number is not mended by any. -/
theorem read_error_cutCall :
    read "(f [\"a\\" = .error ⟨.unterminatedString, "(f [\"a\\", ⟨0, 1, 1⟩⟩ ∧
      (∃ line, newline ∉ line ∧ needsMore (Text.ofString "(f [\"a\\" ++ newline :: line) = false) ∧
      read "(f 1x)" = .error ⟨.malformedNumber, "1x", ⟨3, 1, 4⟩⟩ ∧
      ∀ u, read (Text.ofString "(f 1x)" ++ newline :: u) =
        .error ⟨.malformedNumber, "1x", ⟨3, 1, 4⟩⟩ := by
  have hcut : read "(f [\"a\\" = .error ⟨.unterminatedString, "(f [\"a\\", ⟨0, 1, 1⟩⟩ := by
    with_unfolding_all rfl
  have hword : read "(f 1x)" = .error ⟨.malformedNumber, "1x", ⟨3, 1, 4⟩⟩ := by
    with_unfolding_all rfl
  have hmore : needsMore "(f [\"a\\" = true := by
    rw [needsMore, hcut]
    decide
  exact ⟨hcut, (read_error_continued hcut).2.2.1 hmore, hword, (read_error_continued hword).1 rfl⟩

end SwiftForms
