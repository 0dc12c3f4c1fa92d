import SwiftForms.Proofs.Fallible
import SwiftForms.Proofs.Form.Head
import SwiftForms.Proofs.Form.Search
import SwiftForms.Proofs.Form.Word

/-!
# The grammar of forms

The texts that spell forms, rule by rule: words, strings, and brackets around forms, with spaces
between them. Main statement: a text is read as the forms that it spells, and a text that spells none
is not read. The search for a closing bracket passes over whatever spells forms, so the bracket that
it finds is the one that the grammar puts there.
-/

namespace SwiftForms

/-- Only the double quote encloses strings. -/
theorem Glyph.eq_quote {g : Glyph} (h : g.role = .quote) : g = .char '"' := by
  unfold role at h
  split at h <;> cases h
  rfl

/-- The opening bracket of a kind opens it. -/
theorem Bracket.role_opening (bracket : Bracket) : bracket.opening.role = .opens bracket := by
  cases bracket <;> rfl

/-- The closing bracket of a kind closes it. -/
theorem Bracket.role_closing (bracket : Bracket) : bracket.closing.role = .closes bracket := by
  cases bracket <;> rfl

namespace Reader

/-- Whether a glyph is no space. -/
def notSpace (g : Glyph) : Bool :=
  !g.isSpace

/-- A text that starts at a place inside some number of open brackets and spells these forms. -/
inductive Spells : Nat → Position → Text → List Form → Prop
  /-- The empty text spells nothing. -/
  | nil {depth pos} : Spells depth pos [] []
  /-- A space has no part in the forms. -/
  | space {depth pos g rest forms} (space : g.role = .space)
    (later : Spells depth (pos.advance g) rest forms) : Spells depth pos (g :: rest) forms
  /-- A string. -/
  | string {depth pos body rest forms} (quoted : Quoted body)
    (later : Spells depth (pos.after (.char '"' :: body)) rest forms) :
    Spells depth pos (.char '"' :: body ++ rest)
      (.leaf .string (Text.normal (.char '"' :: body)) pos :: forms)
  /-- A word, which goes on to the next space. -/
  | word {depth pos word kind rest forms} (nonempty : word ≠ [])
    (plain : ∀ g ∈ word, g.isPlain = true) (classified : wordKind (Text.normal word) = some kind)
    (ends : Text.Stops notSpace rest) (later : Spells depth (pos.after word) rest forms) :
    Spells depth pos (word ++ rest) (.leaf kind (Text.normal word) pos :: forms)
  /-- Forms between brackets, at most 256 of which are open at once. -/
  | group {depth pos bracket interior rest children forms} (shallow : depth < 256)
    (inside : Spells (depth + 1) (pos.advance bracket.opening) interior children)
    (later : Spells depth (pos.after (bracket.around interior)) rest forms) :
    Spells depth pos (bracket.around interior ++ rest) (.group bracket children pos :: forms)

/-- The outcome of a search with a text in front of the searched one. -/
def Enclosed.prepend (t : Text) (e : Enclosed) : Enclosed :=
  t.foldr Enclosed.cons e

/-- A text in two parts in front. -/
theorem Enclosed.prepend_append (t u : Text) (e : Enclosed) :
    e.prepend (t ++ u) = (e.prepend u).prepend t :=
  List.foldr_append

/-- A bracket that is found after a text encloses the text. -/
theorem Enclosed.prepend_closed (t interior rest : Text) :
    (Enclosed.closed interior rest).prepend t = .closed (t ++ interior) rest := by
  induction t with
  | nil => rfl
  | cons g tail ih =>
    rw [prepend] at ih ⊢
    rw [List.foldr_cons, ih]
    rfl

/-- A text that the search for a closing bracket passes over: the search goes on behind it with the
same brackets open. -/
def Balanced (t : Text) : Prop :=
  ∀ (outer : Bracket) (inner : List Bracket) (u : Text),
    enclose outer .code inner (t ++ u) = (enclose outer .code inner u).prepend t

/-- Nothing is passed over. -/
theorem balanced_nil : Balanced [] :=
  fun _ _ _ => rfl

/-- One text after another is passed over. -/
theorem Balanced.append {t u : Text} (ht : Balanced t) (hu : Balanced u) : Balanced (t ++ u) := by
  intro outer inner v
  rw [List.append_assoc, ht, hu, Enclosed.prepend_append]

/-- A glyph that is no delimiter is passed over. -/
theorem balanced_singleton {g : Glyph} (h : g.isDelimiter = false) : Balanced [g] := by
  intro outer inner u
  have hturn : turn outer .code inner g = .onward .code inner := by
    cases hrole : g.role with
    | space => simp only [turn, hrole]
    | plain => simp only [turn, hrole]
    | _ => simp [Glyph.isDelimiter, hrole] at h
  rw [List.singleton_append, enclose_cons, hturn]
  rfl

/-- A text without delimiters is passed over. -/
theorem balanced_of_forall {t : Text} (h : ∀ g ∈ t, g.isDelimiter = false) : Balanced t := by
  induction t with
  | nil => exact balanced_nil
  | cons g rest ih =>
    obtain ⟨hg, hrest⟩ := List.forall_mem_cons.mp h
    exact (balanced_singleton hg).append (ih hrest)

/-- Inside a string the search goes on to the closing quote. -/
theorem enclose_quoted {body : Text} (h : Quoted body) (outer : Bracket) (inner : List Bracket)
    (u : Text) :
    enclose outer .quoted inner (body ++ u) = (enclose outer .code inner u).prepend body := by
  induction h with
  | close => rfl
  | escape g h ih =>
    rw [List.cons_append, List.cons_append, enclose_cons, turn]
    simp only [if_pos]
    rw [enclose_cons, turn]
    simp only [ih]
    rfl
  | @glyph g rest noQuote noEscape h ih =>
    rw [List.cons_append, enclose_cons, turn]
    simp only [if_neg noEscape, if_neg noQuote, ih]
    rfl

/-- A string is passed over. -/
theorem balanced_string {body : Text} (h : Quoted body) : Balanced (.char '"' :: body) := by
  intro outer inner u
  have hturn : turn outer .code inner (.char '"') = .onward .quoted inner := rfl
  rw [List.cons_append, enclose_cons, hturn]
  dsimp only
  rw [enclose_quoted h]
  rfl

/-- Brackets are passed over together with what they enclose. -/
theorem Balanced.around {interior : Text} (h : Balanced interior) (bracket : Bracket) :
    Balanced (bracket.around interior) := by
  intro outer inner u
  have hopening : turn outer .code inner bracket.opening = .onward .code (bracket :: inner) := by
    simp only [turn, bracket.role_opening]
  have hclosing : turn outer .code (bracket :: inner) bracket.closing = .onward .code inner := by
    simp only [turn, bracket.role_closing, if_pos]
  rw [Bracket.around, List.cons_append, List.append_assoc, enclose_cons, hopening]
  dsimp only
  rw [h, List.singleton_append, enclose_cons, hclosing]
  change Enclosed.cons _ _ = Enclosed.cons _ _
  rw [← Enclosed.prepend, Enclosed.prepend_append]
  rfl

/-- Whatever spells forms is passed over. -/
theorem Spells.balanced {depth : Nat} {pos : Position} {t : Text} {forms : List Form}
    (h : Spells depth pos t forms) : Balanced t := by
  induction h with
  | nil => exact balanced_nil
  | @space depth pos g rest forms space later ih =>
    have hg : g.isDelimiter = false := by rw [Glyph.isDelimiter, space]
    exact (balanced_singleton hg).append ih
  | string quoted later ih => exact (balanced_string quoted).append ih
  | word nonempty plain classified ends later ih =>
    have hword := balanced_of_forall fun g hg => (Glyph.isPlain_iff.mp (plain g hg)).2
    exact hword.append ih
  | group shallow inside later ihInside ihLater => exact (ihInside.around _).append ihLater

/-- The bracket that closes what spells forms is found. -/
theorem Balanced.enclose_eq {interior : Text} (h : Balanced interior) (bracket : Bracket) (rest : Text) :
    enclose bracket .code [] (interior ++ bracket.closing :: rest) = .closed interior rest := by
  have hfound : turn bracket .code [] bracket.closing = .found := by
    simp only [turn, bracket.role_closing, if_pos]
  rw [h, enclose_cons, hfound]
  dsimp only
  rw [Enclosed.prepend_closed, List.append_nil]

/-- A string stands at the head of its text. -/
theorem head_string (depth : Nat) {body : Text} (h : Quoted body) (rest : Text) :
    head depth (.char '"' :: body ++ rest) = .word .string (.char '"' :: body) rest := by
  have hrole : Glyph.role (.char '"') = .quote := rfl
  simp only [List.cons_append, head, hrole, closeString_of_quoted h]

/-- A word stands at the head of its text. -/
theorem head_word (depth : Nat) {word rest : Text} {kind : Leaf} (nonempty : word ≠ [])
    (plain : ∀ g ∈ word, g.isPlain = true) (classified : wordKind (Text.normal word) = some kind)
    (ends : Text.Stops notSpace rest) : head depth (word ++ rest) = .word kind word rest := by
  have hspace : ∀ g ∈ word, notSpace g = true := by
    intro g hg
    rw [notSpace, Glyph.isSpace_of_isPlain (plain g hg), Bool.not_false]
  have hkind : classify (Text.normal word) = .ok kind := by
    refine classify_eq_ok_iff.mpr ⟨?_, classified⟩
    intro g hg
    obtain ⟨raw, hraw, rfl⟩ := List.mem_map.mp hg
    rw [Glyph.isDelimiter_normal]
    exact (Glyph.isPlain_iff.mp (plain raw hraw)).2
  cases word with
  | nil => exact absurd rfl nonempty
  | cons g more =>
    have hrole : g.role = .plain := of_decide_eq_true (plain g List.mem_cons_self)
    have hmore := (List.forall_mem_cons.mp hspace).2
    have htake := Text.takeWhile_append_of_stops hmore ends
    have hdrop := Text.dropWhile_append_of_stops hmore ends
    unfold notSpace at htake hdrop
    simp only [List.cons_append, head, hrole, htake, hdrop, hkind]

/-- Brackets around what spells forms stand at the head of their text. -/
theorem head_group {depth : Nat} (shallow : depth < 256) (bracket : Bracket) {interior : Text}
    (h : Balanced interior) (rest : Text) :
    head depth (bracket.around interior ++ rest) = .group bracket interior rest := by
  have hdepth : ¬ maxDepth ≤ depth := Nat.not_le.mpr shallow
  simp only [Bracket.around, List.cons_append, List.append_assoc, List.nil_append, head,
    bracket.role_opening, if_neg hdepth, h.enclose_eq]

/-- What spells forms is read as those forms. -/
theorem Spells.readForms_eq_ok {depth : Nat} {pos : Position} {t : Text} {forms : List Form}
    (h : Spells depth pos t forms) : readForms depth pos t = .ok forms := by
  induction h with
  | nil => exact readForms_nil _ _
  | @space depth pos g rest forms space later ih =>
    have hhead : head depth (g :: rest) = .space g rest := by simp only [head, space]
    rw [readForms_eq, hhead]
    exact ih
  | string quoted later ih =>
    rw [readForms_eq, head_string _ quoted]
    dsimp only
    rw [ih]
    rfl
  | word nonempty plain classified ends later ih =>
    rw [readForms_eq, head_word _ nonempty plain classified ends]
    dsimp only
    rw [ih]
    rfl
  | group shallow inside later ihInside ihLater =>
    rw [readForms_eq, head_group shallow _ inside.balanced]
    dsimp only
    rw [ihInside, ihLater]
    rfl

/-- A space at the head divides words. -/
theorem role_of_head_space {depth : Nat} {t rest : Text} {g : Glyph}
    (h : head depth t = .space g rest) : g.role = .space := by
  obtain rfl := eq_of_head_space h
  rw [head] at h
  cases hrole : g.role with
  | space => rfl
  | _ => grind

/-- Brackets at the head are not too deep. -/
theorem shallow_of_head_group {depth : Nat} {t interior rest : Text} {bracket : Bracket}
    (h : head depth t = .group bracket interior rest) : depth < 256 := by
  cases t with
  | nil => cases h
  | cons g tail =>
    rw [head] at h
    by_cases hdepth : maxDepth ≤ depth
    · cases hrole : g.role <;> grind
    · exact Nat.not_le.mp hdepth

/-- A word at the head is a string, or it goes on to the next space and has a kind. -/
theorem head_word_cases {depth : Nat} {t spelled rest : Text} {kind : Leaf}
    (h : head depth t = .word kind spelled rest) :
    (∃ body, kind = .string ∧ spelled = .char '"' :: body ∧ Quoted body) ∨
      ((∀ g ∈ spelled, g.isPlain = true) ∧ wordKind (Text.normal spelled) = some kind ∧
        Text.Stops notSpace rest) := by
  cases t with
  | nil => cases h
  | cons first tail =>
    rw [head] at h
    cases hrole : first.role with
    | quote =>
      cases hclose : closeString tail with
      | none => simp [hrole, hclose] at h
      | some pair =>
        obtain ⟨body, after⟩ := pair
        simp only [hrole, hclose, Head.word.injEq] at h
        obtain ⟨rfl, rfl, rfl⟩ := h
        exact .inl ⟨body, rfl, by rw [Glyph.eq_quote hrole], quoted_of_closeString hclose⟩
    | plain =>
      cases hkind : classify (Text.normal (first :: tail.takeWhile fun h => !h.isSpace)) with
      | error fault => simp [hrole, hkind] at h
      | ok kind' =>
        simp only [hrole, hkind, Head.word.injEq] at h
        obtain ⟨rfl, rfl, rfl⟩ := h
        obtain ⟨hdelimiter, hclassified⟩ := classify_eq_ok_iff.mp hkind
        refine .inr ⟨?_, hclassified, Text.stops_dropWhile notSpace tail⟩
        intro g hg
        have hspace : g.isSpace = false := by
          rcases List.mem_cons.mp hg with rfl | hmem
          · rw [Glyph.isSpace, hrole]
            rfl
          · have hnot := List.mem_takeWhile_imp hmem
            simpa using hnot
        have hnormal := hdelimiter g.normal (List.mem_map_of_mem hg)
        rw [Glyph.isDelimiter_normal] at hnormal
        exact Glyph.isPlain_iff.mpr ⟨hspace, hnormal⟩
    | space => simp [hrole] at h
    | closes bracket => simp [hrole] at h
    | opens bracket => grind

/-- What is read as forms spells them. -/
theorem spells_of_readForms {depth : Nat} {pos : Position} {t : Text} {forms : List Form}
    (h : readForms depth pos t = .ok forms) : Spells depth pos t forms := by
  induction depth, pos, t using head_induction generalizing forms with
  | done depth pos t hhead =>
    rw [readForms_eq, hhead] at h
    cases h
    rw [eq_nil_of_head_done hhead]
    exact .nil
  | fault depth pos t fault fragment hhead =>
    rw [readForms_eq, hhead] at h
    cases h
  | space depth pos t g rest hhead ih =>
    rw [readForms_eq, hhead] at h
    rw [eq_of_head_space hhead]
    exact .space (role_of_head_space hhead) (ih h)
  | word depth pos t kind spelled rest hhead ih =>
    rw [readForms_eq, hhead] at h
    obtain ⟨others, hothers, hforms⟩ := Fallible.bind_eq_ok.mp h
    cases hforms
    obtain ⟨happend, hne⟩ := eq_of_head_word hhead
    rw [happend]
    rcases head_word_cases hhead with ⟨body, rfl, rfl, hquoted⟩ | ⟨hplain, hkind, hends⟩
    · exact .string hquoted (ih hothers)
    · exact .word hne hplain hkind hends (ih hothers)
  | group depth pos t bracket interior rest hhead ihInside ihRest =>
    rw [readForms_eq, hhead] at h
    obtain ⟨children, hchildren, hrest⟩ := Fallible.bind_eq_ok.mp h
    obtain ⟨others, hothers, hforms⟩ := Fallible.bind_eq_ok.mp hrest
    cases hforms
    rw [eq_of_head_group hhead]
    exact .group (shallow_of_head_group hhead) (ihInside hchildren) (ihRest hothers)

end Reader

/-- A source is read as forms exactly when it spells them. -/
theorem read_eq_ok_iff {source : Text} {forms : List Form} :
    read source = .ok forms ↔ Reader.Spells 0 .start source forms := by
  rw [read_eq]
  exact ⟨Reader.spells_of_readForms, Reader.Spells.readForms_eq_ok⟩

end SwiftForms
