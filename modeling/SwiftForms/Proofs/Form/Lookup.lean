import SwiftForms.Form.Position

/-!
# Looking positions up

A position can be followed through a text glyph by glyph: each glyph is a column and a newline starts the
next line. Main statement: the position that is looked up for an offset, by halving the starts of the
lines, is the one at which following the text up to that offset ends.
-/

namespace SwiftForms

namespace Position

/-- The start of a text. -/
def start : Position :=
  ⟨0, 1, 1⟩

/-- The place just after a glyph. -/
def advance (p : Position) (g : Glyph) : Position :=
  if g = newline then ⟨p.offset + 1, p.line + 1, 1⟩ else ⟨p.offset + 1, p.line, p.column + 1⟩

/-- The place just after a text. -/
def after (p : Position) (t : Text) : Position :=
  t.foldl advance p

/-- Moving over a concatenation is moving over its parts in turn. -/
@[simp] theorem after_append (p : Position) (t u : Text) : p.after (t ++ u) = (p.after t).after u := by
  simp [after]

/-- Moving over nothing. -/
@[simp] theorem after_nil (p : Position) : p.after [] = p :=
  rfl

/-- Moving over a glyph and the rest. -/
theorem after_cons (p : Position) (g : Glyph) (t : Text) : p.after (g :: t) = (p.advance g).after t :=
  rfl

/-- A newline starts the next line. -/
theorem advance_newline (p : Position) : p.advance newline = ⟨p.offset + 1, p.line + 1, 1⟩ :=
  if_pos rfl

/-- Every other glyph is a column. -/
theorem advance_of_ne {g : Glyph} (h : g ≠ newline) (p : Position) :
    p.advance g = ⟨p.offset + 1, p.line, p.column + 1⟩ :=
  if_neg h

/-- Every glyph counts for the offset and every newline for the line. -/
theorem offset_line_after (p : Position) (t : Text) :
    (p.after t).offset = p.offset + t.length ∧ (p.after t).line = p.line + t.count newline := by
  induction t generalizing p with
  | nil => simp
  | cons g rest ih =>
    obtain ⟨hoffset, hline⟩ := ih (p.advance g)
    rw [after_cons, hoffset, hline, List.length_cons]
    by_cases hg : g = newline
    · subst hg
      rw [advance_newline, List.count_cons_self]
      dsimp only
      omega
    · rw [advance_of_ne hg, List.count_cons_of_ne hg]
      dsimp only
      omega

end Position

namespace LineTable

/-- A search ends at the number that divides those that pass from those that do not. -/
theorem search_eq {passes : Nat → Bool} {low bound high : Nat} (hlow : low ≤ bound) (hhigh : bound ≤ high)
    (hbelow : ∀ n, low ≤ n → n < bound → passes n = false)
    (habove : ∀ n, bound ≤ n → n < high → passes n = true) : search passes low high = bound := by
  -- The bound stays between the two ends, whichever half is left.
  fun_induction search passes low high with
  | case1 low high hlt hpasses ih =>
    have hmiddle : bound ≤ (low + high) / 2 := by
      refine Nat.le_of_not_lt fun hless => ?_
      have hfails := hbelow ((low + high) / 2) (by omega) hless
      rw [hfails] at hpasses
      cases hpasses
    exact ih hlow hmiddle hbelow fun n hn hless => habove n hn (by omega)
  | case2 low high hlt hfails ih =>
    have hmiddle : (low + high) / 2 < bound := by
      refine Nat.lt_of_not_le fun hle => ?_
      exact hfails (habove ((low + high) / 2) hle (by omega))
    exact ih hmiddle hhigh (fun n hn => hbelow n (by omega)) habove
  | case3 low high hend => omega

/-- A search does not end before it starts. -/
theorem le_search (passes : Nat → Bool) (low high : Nat) : low ≤ search passes low high := by
  fun_induction search passes low high with
  | case1 low high _ _ ih => exact ih
  | case2 low high _ _ ih => omega
  | case3 low high _ => exact Nat.le_refl low

/-- A search ends behind a first number that does not pass. -/
theorem lt_search {passes : Nat → Bool} {low high : Nat} (hlt : low < high) (hfails : passes low = false) :
    low < search passes low high := by
  fun_induction search passes low high with
  | case1 low high _ hpasses ih =>
    have hmiddle : low ≠ (low + high) / 2 := by
      intro heq
      rw [← heq, hfails] at hpasses
      cases hpasses
    exact ih (by omega) hfails
  | case2 low high _ _ ih =>
    have hle := le_search passes ((low + high) / 2 + 1) high
    omega
  | case3 low high hend => exact absurd hlt hend

/-- No offset comes before the first line. -/
theorem line_pos (lines : LineTable) (offset : Nat) : 0 < lines.line offset := by
  obtain ⟨hsize, hzero⟩ := Array.getElem?_eq_some_iff.mp lines.first
  have hfirst : lines.starts.getD 0 0 = 0 := by
    rw [Array.getD_eq_getD_getElem?, lines.first, Option.getD_some]
  refine lt_search hsize (decide_eq_false ?_)
  rw [hfirst]
  exact Nat.not_lt_zero offset

/-- What the lines of a text are at a position behind it: there are as many as the line tells, none starts
behind the position, and the last one starts where the column is counted from. -/
structure Reaches (starts : Array Nat) (p : Position) : Prop where
  /-- The number of lines. -/
  size : starts.size = p.line
  /-- No line starts further on. -/
  bounded : ∀ n ∈ starts, n ≤ p.offset
  /-- The start of the last line. -/
  last : starts.getD (starts.size - 1) 0 + p.column = p.offset + 1

/-- At the start of a text there is one line. -/
theorem reaches_start : Reaches #[0] .start where
  size := rfl
  bounded := by simp [Position.start]
  last := rfl

/-- One more glyph is noted. -/
theorem Reaches.advance {starts : Array Nat} {p : Position} (h : Reaches starts p) {offset : Nat}
    (hoffset : p.offset = offset) (g : Glyph) :
    Reaches (if g = newline then starts.push (offset + 1) else starts) (p.advance g) := by
  have hsize := h.size
  have hlast := h.last
  by_cases hg : g = newline
  · subst hg
    rw [if_pos rfl, Position.advance_newline]
    refine ⟨?_, ?_, ?_⟩
    · simp only [Array.size_push]
      omega
    · intro n hn
      rcases Array.mem_push.mp hn with hold | hnew
      · have hle := h.bounded n hold
        dsimp only
        omega
      · dsimp only
        omega
    · simp only [Array.size_push, Nat.add_sub_cancel, Array.getD_eq_getD_getElem?,
        Array.getElem?_push_size, Option.getD_some]
      omega
  · rw [if_neg hg, Position.advance_of_ne hg]
    refine ⟨hsize, fun n hn => ?_, ?_⟩
    · have hle := h.bounded n hn
      dsimp only
      omega
    · dsimp only
      omega

/-- A whole text is noted. -/
theorem Reaches.after {starts : Array Nat} {p : Position} (h : Reaches starts p) {offset : Nat}
    (hoffset : p.offset = offset) (t : Text) : Reaches (note starts offset t) (p.after t) := by
  induction t generalizing starts p offset with
  | nil => exact h
  | cons g rest ih =>
    have hnext : (p.advance g).offset = (offset + 1 : Nat) := by
      unfold Position.advance
      split <;> simp [hoffset]
    rw [note, Position.after_cons]
    exact ih (h.advance hoffset g) hnext

/-- Two texts are noted in turn. -/
theorem note_append (starts : Array Nat) (offset : Nat) (t u : Text) :
    note starts offset (t ++ u) = note (note starts offset t) (offset + t.length) u := by
  induction t generalizing starts offset with
  | nil => rfl
  | cons g rest ih =>
    rw [List.cons_append, note, note, ih, List.length_cons, Nat.add_assoc, Nat.add_comm 1]

/-- The lines that a text adds start behind its own start. -/
theorem note_eq_append (starts : Array Nat) (offset : Nat) (t : Text) :
    ∃ later : Array Nat, note starts offset t = starts ++ later ∧ ∀ n ∈ later, offset < n := by
  induction t generalizing starts offset with
  | nil => exact ⟨#[], by simp [note], by simp⟩
  | cons g rest ih =>
    by_cases hg : g = newline
    · obtain ⟨later, hnote, hbehind⟩ := ih (starts.push (offset + 1)) (offset + 1)
      refine ⟨#[offset + 1] ++ later, ?_, fun n hn => ?_⟩
      · rw [note, if_pos hg, hnote, Array.push_eq_append, Array.append_assoc]
      · rcases Array.mem_append.mp hn with hfirst | hlater
        · have heq := Array.mem_singleton.mp hfirst
          omega
        · have hlt := hbehind n hlater
          omega
    · obtain ⟨later, hnote, hbehind⟩ := ih starts (offset + 1)
      refine ⟨later, ?_, fun n hn => ?_⟩
      · rw [note, if_neg hg, hnote]
      · have hlt := hbehind n hn
        omega

/-- The position that is looked up behind the first part of a text is the one after that part. -/
theorem position_append (before rest : Text) :
    (ofText (before ++ rest)).position before.length = Position.start.after before := by
  obtain ⟨hoffset, -⟩ := Position.offset_line_after .start before
  have hstart : Position.start.offset = (0 : Nat) := rfl
  rw [hstart] at hoffset
  have hreaches := reaches_start.after hstart before
  obtain ⟨later, hnote, hbehind⟩ := note_eq_append (note #[0] 0 before) (0 + before.length) rest
  have hstarts : (ofText (before ++ rest)).starts = note #[0] 0 before ++ later := by
    rw [← hnote, ← note_append]
    rfl
  -- The lines up to the offset do not start behind it, and all others do.
  have hline : (ofText (before ++ rest)).line before.length = (note #[0] 0 before).size := by
    rw [line, hstarts, Array.size_append]
    refine search_eq (Nat.zero_le _) (Nat.le_add_right _ _) (fun n _ hn => ?_) (fun n hn hless => ?_)
    · have hle := hreaches.bounded _ (Array.getElem_mem hn)
      rw [Array.getD_eq_getD_getElem?, Array.getElem?_append_left hn, Array.getElem?_eq_getElem hn,
        Option.getD_some, decide_eq_false_iff_not]
      omega
    · have hindex : n - (note #[0] 0 before).size < later.size := by omega
      have hlt := hbehind _ (Array.getElem_mem hindex)
      rw [Array.getD_eq_getD_getElem?, Array.getElem?_append_right hn, Array.getElem?_eq_getElem hindex,
        Option.getD_some, decide_eq_true_iff]
      omega
  have hnonempty : (note #[0] 0 before).size - 1 < (note #[0] 0 before).size := by
    have hpos := line_pos (ofText (before ++ rest)) before.length
    omega
  have hlast := hreaches.last
  rw [position, hline, hstarts, Array.getD_eq_getD_getElem?, Array.getElem?_append_left hnonempty,
    ← Array.getD_eq_getD_getElem?, hreaches.size]
  change _ = Position.mk (Position.start.after before).offset (Position.start.after before).line
    (Position.start.after before).column
  rw [Position.mk.injEq]
  omega

/-- The position that is looked up for an offset is the one after as many glyphs of the text. -/
theorem position_ofText {t : Text} {offset : Nat} (h : offset ≤ t.length) :
    (ofText t).position offset = Position.start.after (t.take offset) := by
  have hlookup := position_append (t.take offset) (t.drop offset)
  rwa [List.take_append_drop, List.length_take, Nat.min_eq_left h] at hlookup

end LineTable

end SwiftForms
