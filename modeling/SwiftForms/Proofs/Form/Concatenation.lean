import SwiftForms.Proofs.Fallible
import SwiftForms.Proofs.Form.Relocation
import SwiftForms.Proofs.Form.Search

/-!
# Reading one text after another

A text that can be read keeps its forms when a newline and more text follow it: every string and
every bracket in it is closed, and the newline ends its last word. What follows is read as it is on
its own, only further down. Main statement: reading two texts divided by a newline is reading the
first and then the second.
-/

namespace SwiftForms

namespace Reader

/-- A string that is closed stays closed where it is when more text follows. -/
theorem closeString_append {t body rest : Text} (h : closeString t = some (body, rest)) (u : Text) :
    closeString (t ++ u) = some (body, rest ++ u) := by
  fun_induction closeString t generalizing body rest with
  | case1 => cases h
  | case2 tail =>
    cases h
    rfl
  | case3 g tail ih =>
    obtain ⟨⟨inner, after⟩, hinner, hpair⟩ := Option.map_eq_some_iff.mp h
    cases hpair
    simp only [List.cons_append, closeString, ih hinner, Option.map_some]
  | case4 g tail hquote hescape ih =>
    obtain ⟨⟨inner, after⟩, hinner, hpair⟩ := Option.map_eq_some_iff.mp h
    cases hpair
    have hnext : ∀ (next : Glyph) (later : Text),
        g = .char '\\' → tail ++ u = next :: later → False := by
      intro next later hg htail
      cases tail with
      | nil => cases hinner
      | cons first others => exact hescape first others hg rfl
    rw [List.cons_append, closeString.eq_4 g (tail ++ u) hquote hnext, ih hinner]
    rfl

/-- A newline ends the word before it. -/
theorem takeWhile_append_newline (t u : Text) :
    (t ++ newline :: u).takeWhile (fun g => !g.isSpace) = t.takeWhile fun g => !g.isSpace := by
  induction t with
  | nil => rfl
  | cons g rest ih => simp only [List.cons_append, List.takeWhile_cons, ih]

/-- What stands after a word stays there when a newline and more text follow. -/
theorem dropWhile_append_newline (t u : Text) :
    (t ++ newline :: u).dropWhile (fun g => !g.isSpace) =
      t.dropWhile (fun g => !g.isSpace) ++ newline :: u := by
  induction t with
  | nil => rfl
  | cons g rest ih =>
    simp only [List.cons_append, List.dropWhile_cons, ih]
    split <;> rfl

/-- The head of a text that a newline and more text follow. -/
def Head.followedBy (u : Text) : Head → Head
  | .done => .space newline u
  | .space g rest => .space g (rest ++ newline :: u)
  | .fault cause fragment => .fault cause fragment
  | .word kind spelled rest => .word kind spelled (rest ++ newline :: u)
  | .group bracket interior rest => .group bracket interior (rest ++ newline :: u)

/-- A head without a fault stays the head when a newline and more text follow. -/
theorem head_append_newline {depth : Nat} {t : Text}
    (h : ∀ fault fragment, head depth t ≠ .fault fault fragment) (u : Text) :
    head depth (t ++ newline :: u) = (head depth t).followedBy u := by
  cases t with
  | nil => rfl
  | cons g rest =>
    rw [List.cons_append]
    cases hrole : g.role with
    | space => simp only [head, hrole, Head.followedBy]
    | closes bracket => simp [head, hrole] at h
    | quote =>
      cases hclose : closeString rest with
      | none => simp [head, hrole, hclose] at h
      | some pair =>
        obtain ⟨body, after⟩ := pair
        simp only [head, hrole, hclose, closeString_append hclose, Head.followedBy]
    | opens bracket =>
      by_cases hdepth : maxDepth ≤ depth
      · simp [head, hrole, hdepth] at h
      · cases henclose : enclose bracket .code [] rest with
        | closed interior after =>
          simp only [head, hrole, if_neg hdepth, henclose, enclose_append henclose, Head.followedBy]
        | openString => simp [head, hrole, hdepth, henclose] at h
        | openForm => simp [head, hrole, hdepth, henclose] at h
        | mismatched seen => simp [head, hrole, hdepth, henclose] at h
    | plain =>
      cases hkind : classify (Text.normal (g :: rest.takeWhile fun h => !h.isSpace)) with
      | error fault => simp [head, hrole, hkind] at h
      | ok kind =>
        simp only [head, hrole, takeWhile_append_newline, dropWhile_append_newline, hkind,
          Head.followedBy]

/-- A text that can be read keeps its forms when a newline and more text follow it. The forms of what
follows come after them, or its error takes their place. -/
theorem readForms_append_newline {depth : Nat} {pos : Position} {t : Text} {forms : List Form}
    (h : readForms depth pos t = .ok forms) (u : Text) :
    readForms depth pos (t ++ newline :: u) =
      (readForms depth (pos.after (t ++ [newline])) u).map (forms ++ ·) := by
  induction depth, pos, t using head_induction generalizing forms with
  | done depth pos t hhead =>
    obtain rfl := eq_nil_of_head_done hhead
    rw [readForms_eq, hhead] at h
    cases h
    rw [List.nil_append, readForms_eq]
    change readForms depth (pos.advance newline) u =
      (readForms depth (pos.advance newline) u).map ([] ++ ·)
    cases readForms depth (pos.advance newline) u <;> rfl
  | fault depth pos t fault fragment hhead =>
    rw [readForms_eq, hhead] at h
    cases h
  | space depth pos t g rest hhead ih =>
    rw [readForms_eq, hhead] at h
    rw [readForms_eq, head_append_newline (by simp [hhead]), hhead, eq_of_head_space hhead]
    exact ih h
  | word depth pos t kind spelled rest hhead ih =>
    rw [readForms_eq, hhead] at h
    obtain ⟨others, hothers, hforms⟩ := Fallible.bind_eq_ok.mp h
    cases hforms
    rw [readForms_eq, head_append_newline (by simp [hhead]), hhead, (eq_of_head_word hhead).1]
    simp only [Head.followedBy, ih hothers, Position.after_append]
    cases readForms depth (((pos.after spelled).after rest).after [newline]) u <;> rfl
  | group depth pos t bracket interior rest hhead ihinside ihrest =>
    rw [readForms_eq, hhead] at h
    obtain ⟨children, hchildren, hrest⟩ := Fallible.bind_eq_ok.mp h
    obtain ⟨others, hothers, hforms⟩ := Fallible.bind_eq_ok.mp hrest
    cases hforms
    rw [readForms_eq, head_append_newline (by simp [hhead]), hhead, eq_of_head_group hhead]
    simp only [Head.followedBy, ihrest hothers, hchildren, Position.after_append]
    cases readForms depth (((pos.after (bracket.around interior)).after rest).after [newline]) u <;> rfl

end Reader

/-- A text and a newline move the start of the next line down by all of their glyphs and newlines. -/
theorem Position.after_append_newline (t : Text) :
    Position.start.after (t ++ [newline]) =
      Position.start.shift (t.length + 1) (t.count newline + 1) := by
  obtain ⟨hoffset, hline⟩ := offset_line_after start t
  rw [after_append, after_cons, after_nil, advance_newline, hoffset, hline]
  simp only [start, shift, mk.injEq, and_true]
  omega

/-- Reading two texts divided by a newline is reading the first and then the second, further down. -/
theorem read_append_newline {t : Text} {forms : List Form} (h : read t = .ok forms) (u : Text) :
    read (t ++ newline :: u) =
      (Reader.relocated (Position.shift (t.length + 1) (t.count newline + 1)) (read u)).map
        (forms ++ ·) := by
  rw [read_eq] at h
  rw [read_eq, read_eq, Reader.readForms_append_newline h, Position.after_append_newline,
    Reader.readForms_shift]

end SwiftForms
