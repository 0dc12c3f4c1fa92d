import SwiftForms.Proofs.Form.Concatenation
import SwiftForms.Text.Encoding

/-!
# Texts joined by a newline

A newline divides two texts also where they are given as bytes: it continues no sequence of bytes, so
neither side has a part in how the other one is taken. Main statement: after a text that can be read,
what follows a newline is read as it is on its own. Its forms come after those of the text, or its error
is the error of the whole, moved down by the glyphs and the lines of the text.
-/

namespace SwiftForms

namespace Text

/-- The bytes after the first one of a sequence are no ASCII characters, and there are one to three. -/
theorem followers?_bounds {lead low high count : Nat} (h : followers? lead = some (low, high, count)) :
    0x80 ≤ low ∧ (count = 1 ∨ count = 2 ∨ count = 3) := by
  unfold followers? at h
  grind

/-- A character is the same whatever follows its sequence. -/
theorem leadingChar?_append {lead : UInt8} {rest : List UInt8} {c : Char} {taken : Nat}
    (h : leadingChar? lead rest = some (c, taken)) (more : List UInt8) :
    taken ≤ rest.length ∧ leadingChar? lead (rest ++ more) = some (c, taken) := by
  unfold leadingChar? at h ⊢
  split at h
  · rw [if_pos ‹_›]
    cases h
    exact ⟨Nat.zero_le _, rfl⟩
  · rw [if_neg ‹_›]
    split at h
    · rename_i low high b later hfollowers
      rw [hfollowers, List.cons_append]
      grind
    · rename_i low high b c later hfollowers
      rw [hfollowers, List.cons_append, List.cons_append]
      grind
    · rename_i low high b c d later hfollowers
      rw [hfollowers, List.cons_append, List.cons_append, List.cons_append]
      grind
    · cases h

/-- A byte that starts no sequence starts none in front of a newline either. -/
theorem leadingChar?_append_newline {lead : UInt8} {rest : List UInt8}
    (h : leadingChar? lead rest = none) (more : List UInt8) :
    leadingChar? lead (rest ++ 10 :: more) = none := by
  have hnewline : (10 : UInt8).toNat < 0x80 := by decide
  unfold leadingChar? at h ⊢
  split at h
  · cases h
  · rw [if_neg ‹_›]
    cases hfollowers : followers? lead.toNat with
    | none => rfl
    | some bounds =>
      obtain ⟨low, high, count⟩ := bounds
      rw [hfollowers] at h
      -- The newline would have to be one of the bytes after the first.
      obtain ⟨hlow, rfl | rfl | rfl⟩ := followers?_bounds hfollowers
      · cases rest with
        | nil => grind
        | cons b later => simpa using h
      · rcases rest with _ | ⟨b, _ | ⟨c, later⟩⟩
        · grind
        · grind [isContinuation]
        · simpa using h
      · rcases rest with _ | ⟨b, _ | ⟨c, _ | ⟨d, later⟩⟩⟩
        · grind
        · grind [isContinuation]
        · grind [isContinuation]
        · simpa using h

/-- A newline keeps the bytes on its two sides apart. -/
theorem ofBytes_append_newline (bytes more : List UInt8) :
    ofBytes (bytes ++ 10 :: more) = ofBytes bytes ++ newline :: ofBytes more := by
  fun_induction ofBytes bytes with
  | case1 =>
    have hnewline : leadingChar? 10 more = some ('\n', 0) := rfl
    rw [List.nil_append, ofBytes, hnewline]
    rfl
  | case2 lead rest c taken hlead ih =>
    obtain ⟨htaken, hsame⟩ := leadingChar?_append hlead (10 :: more)
    rw [List.cons_append, ofBytes, hsame]
    dsimp only
    rw [List.drop_append_of_le_length htaken, ih, List.cons_append]
  | case3 lead rest hlead ih =>
    rw [List.cons_append, ofBytes, leadingChar?_append_newline hlead]
    dsimp only
    rw [ih, List.cons_append]

end Text

/-- After a text that can be read and a newline, a text is read as it is on its own, moved down: its
offsets grow by the glyphs of the first text and the newline, its lines by the newlines, and its columns
stay. The bytes of two texts with a newline between them are taken as the two texts with a newline
between them. -/
theorem read_joined {t : Text} {forms : List Form} (h : read t = .ok forms) (u : Text) :
    (∀ later, read u = .ok later →
      read (t ++ newline :: u) =
        .ok (forms ++ later.map (Form.relocate (Position.shift (t.length + 1) (1 + t.count newline))))) ∧
    (∀ e, read u = .error e →
      read (t ++ newline :: u) =
        .error ⟨e.fault, e.fragment, e.pos.shift (t.length + 1) (1 + t.count newline)⟩) ∧
    ∀ bytes more, Text.ofBytes bytes = t → Text.ofBytes more = u →
      Text.ofBytes (bytes ++ 10 :: more) = t ++ newline :: u := by
  have hjoined := read_append_newline h u
  rw [Int.add_comm (t.count newline) 1] at hjoined
  refine ⟨?_, ?_, ?_⟩
  · intro later hlater
    rw [hjoined, hlater, Reader.relocated, relocateForms_eq_map]
    rfl
  · intro e he
    rw [hjoined, he]
    rfl
  · rintro bytes more rfl rfl
    exact Text.ofBytes_append_newline bytes more

/-- A call whose argument is a string over two lines. -/
def spreadString : Text :=
  "(say \"a)\n b\")"

/-- The form of that call. -/
def spreadStringForm : Form :=
  .group .round [.leaf .atom "say" ⟨1, 1, 2⟩, .leaf .string "\"a)  b\"" ⟨5, 1, 6⟩] ⟨0, 1, 1⟩

/-- The call is read, and after it a vector on two lines and a bracket that closes nothing. -/
theorem read_joined_spreadString :
    read spreadString = .ok [spreadStringForm] ∧
      read (spreadString ++ newline :: "[x\n 1]") =
        .ok [spreadStringForm,
          .group .square [.leaf .atom "x" ⟨15, 3, 2⟩, .leaf .number "1" ⟨18, 4, 2⟩] ⟨14, 3, 1⟩] ∧
      read (spreadString ++ newline :: "x ]") =
        .error ⟨.unexpectedCloser, "]", ⟨16, 3, 3⟩⟩ ∧
      Text.ofBytes [0x28, 0x22, 0xE2, 0x82, 0x22, 0x29, 10, 0xAC] =
        [.char '(', .char '"', .stray 0xE2, .stray 0x82, .char '"', .char ')', newline, .stray 0xAC] := by
  have hread : read spreadString = .ok [spreadStringForm] := by
    with_unfolding_all rfl
  have hvector : read "[x\n 1]" =
      .ok [.group .square [.leaf .atom "x" ⟨1, 1, 2⟩, .leaf .number "1" ⟨4, 2, 2⟩] ⟨0, 1, 1⟩] := by
    with_unfolding_all rfl
  have hcloser : read "x ]" = .error ⟨.unexpectedCloser, "]", ⟨2, 1, 3⟩⟩ := by
    with_unfolding_all rfl
  -- The first two bytes of a character, cut off from the third by a newline.
  have hcut : read [.char '(', .char '"', .stray 0xE2, .stray 0x82, .char '"', .char ')'] =
      .ok [.group .round [.leaf .string "\"\uFFFD\uFFFD\"" ⟨1, 1, 2⟩] ⟨0, 1, 1⟩] := by
    with_unfolding_all rfl
  refine ⟨hread, (read_joined hread _).1 _ hvector, (read_joined hread _).2.1 _ hcloser, ?_⟩
  refine (read_joined hcut [.stray 0xAC]).2.2 [0x28, 0x22, 0xE2, 0x82, 0x22, 0x29] [0xAC] ?_ ?_
  · with_unfolding_all rfl
  · with_unfolding_all rfl

end SwiftForms
