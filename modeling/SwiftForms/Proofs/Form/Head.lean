import SwiftForms.Form.Reader
import SwiftForms.Proofs.Form.Lookup

/-!
# The head of a text

Reading goes on by one word, one enclosed form or one space at a time. What stands at the head of a
text depends on the text and the number of open brackets, not on the place of the text. Reading is
given by its head and by reading what follows, and an induction over texts follows the same steps.
Looking up the positions in a source is following them while it is read.
-/

namespace SwiftForms

namespace Bracket

/-- A text between the two brackets of a kind. -/
def around (bracket : Bracket) (interior : Text) : Text :=
  bracket.opening :: (interior ++ [bracket.closing])

end Bracket

namespace Glyph

/-- Only the opening bracket of a kind opens it. -/
theorem eq_opening {g : Glyph} {bracket : Bracket} (h : g.role = .opens bracket) :
    g = bracket.opening := by
  unfold role at h
  split at h <;> cases h <;> rfl

/-- Only the closing bracket of a kind closes it. -/
theorem eq_closing {g : Glyph} {bracket : Bracket} (h : g.role = .closes bracket) :
    g = bracket.closing := by
  unfold role at h
  split at h <;> cases h <;> rfl

end Glyph

namespace Reader

/-- What stands at the head of a text. -/
inductive Head where
  /-- Nothing: the text is empty. -/
  | done
  /-- A space, and the rest of the text. -/
  | space (g : Glyph) (rest : Text)
  /-- A fault, and the offending part of the text as the reader takes it. -/
  | fault (fault : ReadFault) (fragment : Text)
  /-- A word as it stands in the text, and the rest. -/
  | word (kind : Leaf) (spelled rest : Text)
  /-- What two brackets enclose, and the rest. -/
  | group (bracket : Bracket) (interior rest : Text)

/-- What stands at the head of a text inside `depth` open brackets. -/
def head (depth : Nat) : Text → Head
  | [] => .done
  | g :: rest =>
    match g.role with
    | .space => .space g rest
    | .closes _ => .fault .unexpectedCloser [g.normal]
    | .quote =>
      match closeString rest with
      | none => .fault .unterminatedString (Text.normal (g :: rest))
      | some (body, after) => .word .string (g :: body) after
    | .opens bracket =>
      if maxDepth ≤ depth then .fault .tooDeep (Text.normal (g :: rest))
      else
        match enclose bracket .code [] rest with
        | .openString => .fault .unterminatedString (Text.normal (g :: rest))
        | .openForm => .fault (.unterminated bracket) (Text.normal (g :: rest))
        | .mismatched seen => .fault .mismatchedCloser (Text.normal (g :: seen))
        | .closed interior after => .group bracket interior after
    | .plain =>
      let word := g :: rest.takeWhile fun h => !h.isSpace
      match classify (Text.normal word) with
      | .error fault => .fault fault (Text.normal word)
      | .ok kind => .word kind word (rest.dropWhile fun h => !h.isSpace)

/-- Reading is given by the head of the text and by reading what follows it. -/
theorem formsAt_eq (place : Nat → Position) (depth offset : Nat) (t : Text) :
    formsAt place depth offset t =
      match head depth t with
      | .done => .ok []
      | .space _ rest => formsAt place depth (offset + 1) rest
      | .fault fault fragment => .error ⟨fault, fragment, place offset⟩
      | .word kind spelled rest => do
        let forms ← formsAt place depth (offset + spelled.length) rest
        return .leaf kind (Text.normal spelled) (place offset) :: forms
      | .group bracket interior rest => do
        let children ← formsAt place (depth + 1) (offset + 1) interior
        let forms ← formsAt place depth (offset + (bracket.around interior).length) rest
        return .group bracket children (place offset) :: forms := by
  cases t with
  | nil => rw [formsAt]; rfl
  | cons g rest =>
    rw [formsAt]
    cases hrole : g.role with
    | space => simp only [head, hrole]
    | closes bracket => simp only [head, hrole]
    | quote =>
      cases hclose : closeString rest with
      | none => simp [head, hrole, hclose]
      | some pair =>
        obtain ⟨body, after⟩ := pair
        simp only [head, hrole, hclose]
        cases formsAt place depth (offset + (g :: body).length) after <;> rfl
    | opens bracket =>
      obtain rfl := Glyph.eq_opening hrole
      by_cases hdepth : maxDepth ≤ depth
      · simp only [head, hrole, if_pos hdepth]
      · simp only [head, hrole, if_neg hdepth]
        split
        next henclose => rw [henclose]
        next henclose => rw [henclose]
        next seen henclose => rw [henclose]
        next interior after henclose =>
          have hlength : offset + (bracket.around interior).length = offset + 1 + interior.length + 1 := by
            simp only [Bracket.around, List.length_cons, List.length_append, List.length_nil]
            omega
          rw [henclose]
          dsimp only
          rw [hlength]
          cases formsAt place (depth + 1) (offset + 1) interior with
          | error e => rfl
          | ok children => cases formsAt place depth (offset + 1 + interior.length + 1) after <;> rfl
    | plain =>
      cases hkind : classify (Text.normal (g :: rest.takeWhile fun h => !h.isSpace)) with
      | error fault => simp only [head, hrole, hkind]
      | ok kind =>
        simp only [head, hrole, hkind]
        cases formsAt place depth (offset + (g :: rest.takeWhile fun h => !h.isSpace).length)
          (rest.dropWhile fun h => !h.isSpace) <;> rfl

/-- Only the empty text has nothing at its head. -/
theorem eq_nil_of_head_done {depth : Nat} {t : Text} (h : head depth t = .done) : t = [] := by
  cases t with
  | nil => rfl
  | cons first tail =>
    rw [head] at h
    grind

/-- A space at the head is the first glyph of the text. -/
theorem eq_of_head_space {depth : Nat} {t rest : Text} {g : Glyph}
    (h : head depth t = .space g rest) : t = g :: rest := by
  cases t with
  | nil => cases h
  | cons first tail =>
    rw [head] at h
    grind

/-- A word at the head starts the text and is not empty. -/
theorem eq_of_head_word {depth : Nat} {t spelled rest : Text} {kind : Leaf}
    (h : head depth t = .word kind spelled rest) : t = spelled ++ rest ∧ spelled ≠ [] := by
  cases t with
  | nil => cases h
  | cons first tail =>
    rw [head] at h
    cases hrole : first.role with
    | quote =>
      cases hclose : closeString tail with
      | none => simp [hrole, hclose] at h
      | some pair =>
        obtain ⟨body, after⟩ := pair
        have happend := append_of_closeString hclose
        simp only [hrole, hclose, Head.word.injEq] at h
        obtain ⟨-, rfl, rfl⟩ := h
        exact ⟨by rw [happend, List.cons_append], List.cons_ne_nil _ _⟩
    | plain =>
      cases hkind : classify (Text.normal (first :: tail.takeWhile fun h => !h.isSpace)) with
      | error fault => simp [hrole, hkind] at h
      | ok kind' =>
        simp only [hrole, hkind, Head.word.injEq] at h
        obtain ⟨-, rfl, rfl⟩ := h
        exact ⟨by rw [List.cons_append, List.takeWhile_append_dropWhile], List.cons_ne_nil _ _⟩
    | space => simp [hrole] at h
    | closes bracket => simp [hrole] at h
    | opens bracket => grind

/-- An enclosed form at the head starts the text with its brackets. -/
theorem eq_of_head_group {depth : Nat} {t interior rest : Text} {bracket : Bracket}
    (h : head depth t = .group bracket interior rest) : t = bracket.around interior ++ rest := by
  cases t with
  | nil => cases h
  | cons first tail =>
    rw [head] at h
    cases hrole : first.role with
    | opens kind =>
      obtain rfl := Glyph.eq_opening hrole
      simp only [hrole] at h
      split at h
      · cases h
      · cases henclose : enclose kind .code [] tail with
        | closed inside after =>
          simp only [henclose, Head.group.injEq] at h
          obtain ⟨rfl, rfl, rfl⟩ := h
          obtain ⟨closer, happend, hcloser⟩ := append_of_enclose henclose
          rw [happend, Glyph.eq_closing hcloser]
          simp [Bracket.around]
        | openString => simp [henclose] at h
        | openForm => simp [henclose] at h
        | mismatched seen => simp [henclose] at h
    | space => simp [hrole] at h
    | closes kind => simp [hrole] at h
    | quote => grind
    | plain => grind

/-- What holds of a text because it holds of what follows its head holds of every text. -/
theorem text_induction {motive : Nat → Text → Prop}
    (done : ∀ depth t, head depth t = .done → motive depth t)
    (space : ∀ depth t g rest, head depth t = .space g rest → motive depth rest → motive depth t)
    (fault : ∀ depth t fault fragment, head depth t = .fault fault fragment → motive depth t)
    (word : ∀ depth t kind spelled rest, head depth t = .word kind spelled rest →
      motive depth rest → motive depth t)
    (group : ∀ depth t bracket interior rest, head depth t = .group bracket interior rest →
      motive (depth + 1) interior → motive depth rest → motive depth t)
    (depth : Nat) (t : Text) : motive depth t := by
  induction hlength : t.length using Nat.strongRecOn generalizing depth t with
  | _ n ih =>
    subst hlength
    cases hhead : head depth t with
    | done => exact done depth t hhead
    | fault kind fragment => exact fault depth t kind fragment hhead
    | space g rest =>
      have ht := congrArg List.length (eq_of_head_space hhead)
      simp only [List.length_cons] at ht
      exact space depth t g rest hhead (ih rest.length (by omega) _ rest rfl)
    | word kind spelled rest =>
      obtain ⟨happend, hne⟩ := eq_of_head_word hhead
      have ht := congrArg List.length happend
      have hpos := List.length_pos_iff.mpr hne
      simp only [List.length_append] at ht
      exact word depth t kind spelled rest hhead (ih rest.length (by omega) _ rest rfl)
    | group bracket interior rest =>
      have ht := congrArg List.length (eq_of_head_group hhead)
      simp only [Bracket.around, List.length_append, List.length_cons, List.length_nil] at ht
      exact group depth t bracket interior rest hhead
        (ih interior.length (by omega) _ interior rfl) (ih rest.length (by omega) _ rest rfl)

/-- The induction over texts with the position at which each of them starts. -/
theorem head_induction {motive : Nat → Position → Text → Prop}
    (done : ∀ depth pos t, head depth t = .done → motive depth pos t)
    (space : ∀ depth pos t g rest, head depth t = .space g rest →
      motive depth (pos.advance g) rest → motive depth pos t)
    (fault : ∀ depth pos t fault fragment, head depth t = .fault fault fragment →
      motive depth pos t)
    (word : ∀ depth pos t kind spelled rest, head depth t = .word kind spelled rest →
      motive depth (pos.after spelled) rest → motive depth pos t)
    (group : ∀ depth pos t bracket interior rest, head depth t = .group bracket interior rest →
      motive (depth + 1) (pos.advance bracket.opening) interior →
      motive depth (pos.after (bracket.around interior)) rest → motive depth pos t)
    (depth : Nat) (pos : Position) (t : Text) : motive depth pos t := by
  induction depth, t using text_induction generalizing pos with
  | done depth t hhead => exact done depth pos t hhead
  | space depth t g rest hhead ih => exact space depth pos t g rest hhead (ih _)
  | fault depth t kind fragment hhead => exact fault depth pos t kind fragment hhead
  | word depth t kind spelled rest hhead ih => exact word depth pos t kind spelled rest hhead (ih _)
  | group depth t bracket interior rest hhead ihInside ihRest =>
    exact group depth pos t bracket interior rest hhead (ihInside _) (ihRest _)

/-- Positions that are the same for all offsets in a text are the same in a part of the text. -/
theorem places_within {place other : Nat → Position} {offset start : Nat} {t part : Text} {skipped : Nat}
    (h : ∀ n ≤ t.length, place (offset + n) = other (start + n))
    (hpart : skipped + part.length ≤ t.length) :
    ∀ n ≤ part.length, place (offset + skipped + n) = other (start + skipped + n) := by
  intro n hn
  rw [Nat.add_assoc, Nat.add_assoc]
  exact h (skipped + n) (by omega)

/-- Reading depends on the positions of the offsets in the text that is read, and on no others. -/
theorem formsAt_congr {place other : Nat → Position} {depth offset start : Nat} {t : Text}
    (h : ∀ n ≤ t.length, place (offset + n) = other (start + n)) :
    formsAt place depth offset t = formsAt other depth start t := by
  induction depth, t using text_induction generalizing offset start with
  | done depth t hhead => rw [formsAt_eq, formsAt_eq other, hhead]
  | fault depth t fault fragment hhead =>
    have hhere : place offset = other start := h 0 (Nat.zero_le _)
    rw [formsAt_eq, formsAt_eq other, hhead, hhere]
  | space depth t g rest hhead ih =>
    have hlength : 1 + rest.length ≤ t.length := by
      rw [eq_of_head_space hhead, List.length_cons]
      omega
    rw [formsAt_eq, formsAt_eq other, hhead]
    exact ih (places_within h hlength)
  | word depth t kind spelled rest hhead ih =>
    have hhere : place offset = other start := h 0 (Nat.zero_le _)
    have hlength : spelled.length + rest.length ≤ t.length := by
      refine Nat.le_of_eq ?_
      rw [(eq_of_head_word hhead).1, List.length_append]
    rw [formsAt_eq, formsAt_eq other, hhead]
    dsimp only
    rw [ih (places_within h hlength), hhere]
  | group depth t bracket interior rest hhead ihInside ihRest =>
    have hhere : place offset = other start := h 0 (Nat.zero_le _)
    have ht := congrArg List.length (eq_of_head_group hhead)
    simp only [List.length_append] at ht
    have hinside : 1 + interior.length ≤ t.length := by
      rw [ht, Bracket.around, List.length_cons, List.length_append]
      omega
    rw [formsAt_eq, formsAt_eq other, hhead]
    dsimp only
    rw [ihInside (places_within h hinside), ihRest (places_within h (by omega)), hhere]

/-- The forms of a text that starts at `pos` inside `depth` open brackets. -/
def readForms (depth : Nat) (pos : Position) (t : Text) : Except ReadError (List Form) :=
  formsAt (fun n => pos.after (t.take n)) depth 0 t

/-- A part of a text is read from the position after what stands before it. -/
theorem formsAt_part {t before part rest : Text} (h : t = before ++ (part ++ rest)) (depth : Nat)
    (pos : Position) :
    formsAt (fun n => pos.after (t.take n)) depth (0 + before.length) part =
      readForms depth (pos.after before) part := by
  refine formsAt_congr fun n hn => ?_
  rw [h, Nat.zero_add, Nat.zero_add, List.take_length_add_append, List.take_append_of_le_length hn,
    Position.after_append]

/-- Reading is given by the head of the text and by reading what follows it, from the position behind
it. -/
theorem readForms_eq (depth : Nat) (pos : Position) (t : Text) :
    readForms depth pos t =
      match head depth t with
      | .done => .ok []
      | .space g rest => readForms depth (pos.advance g) rest
      | .fault fault fragment => .error ⟨fault, fragment, pos⟩
      | .word kind spelled rest => do
        let forms ← readForms depth (pos.after spelled) rest
        return .leaf kind (Text.normal spelled) pos :: forms
      | .group bracket interior rest => do
        let children ← readForms (depth + 1) (pos.advance bracket.opening) interior
        let forms ← readForms depth (pos.after (bracket.around interior)) rest
        return .group bracket children pos :: forms := by
  rw [readForms, formsAt_eq]
  cases hhead : head depth t with
  | done => rfl
  | fault fault fragment => rfl
  | space g rest =>
    have ht : t = [g] ++ (rest ++ []) := by rw [eq_of_head_space hhead, List.append_nil]; rfl
    exact formsAt_part ht depth pos
  | word kind spelled rest =>
    have ht : t = spelled ++ (rest ++ []) := by rw [(eq_of_head_word hhead).1, List.append_nil]
    dsimp only
    rw [formsAt_part ht]
    rfl
  | group bracket interior rest =>
    have ht := eq_of_head_group hhead
    have hinside : t = [bracket.opening] ++ (interior ++ (bracket.closing :: rest)) := by
      rw [ht, Bracket.around]
      simp
    have hrest : t = bracket.around interior ++ (rest ++ []) := by rw [ht, List.append_nil]
    have hchildren : formsAt (fun n => pos.after (t.take n)) (depth + 1) (0 + 1) interior =
        readForms (depth + 1) (pos.advance bracket.opening) interior :=
      formsAt_part hinside (depth + 1) pos
    dsimp only
    rw [hchildren, formsAt_part hrest]
    rfl

/-- Nothing is read of the empty text. -/
theorem readForms_nil (depth : Nat) (pos : Position) : readForms depth pos [] = .ok [] :=
  readForms_eq depth pos []

end Reader

/-- Reading a source with the positions that are looked up in its lines is reading it from its start. -/
theorem read_eq (source : Text) : read source = Reader.readForms 0 .start source := by
  refine Reader.formsAt_congr fun n hn => ?_
  rw [Nat.zero_add]
  exact LineTable.position_ofText hn

end SwiftForms
