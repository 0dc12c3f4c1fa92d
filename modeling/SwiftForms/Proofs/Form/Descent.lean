import SwiftForms.Proofs.Form.Grammar

/-!
# Reading forms in one pass

A reader by recursive descent: it goes over a text once, from left to right, and knows of the brackets
that are open but never looks ahead for the bracket that closes one. Main statement: it accepts
exactly the texts that are read by searching for closing brackets first, and yields the same forms at
the same places.
-/

namespace SwiftForms

namespace Descent

/-- The rest of a string through its closing quote, and what follows. `escaped` tells whether the
glyph before was a backslash that takes the next glyph with it. -/
def quoted (escaped : Bool) : Text → Option (Text × Text)
  | [] => none
  | g :: rest =>
    if escaped = false ∧ g = .char '"' then some ([g], rest)
    else (quoted (!escaped && g = .char '\\') rest).map fun (body, after) => (g :: body, after)

/-- A string keeps every glyph. -/
theorem append_of_quoted {escaped : Bool} {t body rest : Text}
    (h : quoted escaped t = some (body, rest)) : t = body ++ rest := by
  induction t generalizing escaped body with
  | nil => cases h
  | cons g tail ih =>
    rw [quoted] at h
    split at h
    · cases h
      rfl
    · obtain ⟨⟨inner, after⟩, hinner, hpair⟩ := Option.map_eq_some_iff.mp h
      cases hpair
      rw [ih hinner, List.cons_append]

/-- What is read of a text inside open brackets: the forms, the place at which reading goes on, and
what is left there. -/
structure Stretch (t : Text) where
  /-- The forms. -/
  forms : List Form
  /-- The place after them. -/
  pos : Position
  /-- The text at that place. -/
  rest : Text
  /-- What is left is a part of the text. -/
  length_le : rest.length ≤ t.length

/-- What is read of a text is what is read at its start and then of what follows. -/
def Stretch.after {t u : Text} (first : List Form) (h : u.length ≤ t.length) (s : Stretch u) :
    Stretch t :=
  ⟨first ++ s.forms, s.pos, s.rest, s.length_le.trans h⟩

/-- Whether a word may end in front of a text: at the end of all text, at a space, or at the bracket
that closes the innermost open one. -/
def endsWord (opened : List Bracket) : Text → Bool
  | [] => true
  | g :: _ =>
    match g.role with
    | .space => true
    | .closes bracket => opened.head? = some bracket
    | _ => false

/-- The forms of a text up to the bracket that closes the innermost of `opened`, or up to the end of
the text if none is open. -/
def items (opened : List Bracket) (pos : Position) (t : Text) : Option (Stretch t) :=
  match t with
  | [] => if opened = [] then some ⟨[], pos, [], Nat.le_refl _⟩ else none
  | g :: rest =>
    have hword : (rest.dropWhile Glyph.isPlain).length ≤ rest.length :=
      (rest.dropWhile_suffix Glyph.isPlain).length_le
    match g.role with
    | .space => (items opened (pos.advance g) rest).map (.after [] (Nat.le_succ _))
    | .closes bracket =>
      if opened.head? = some bracket then some ⟨[], pos.advance g, rest, Nat.le_succ _⟩ else none
    | .quote =>
      match hquoted : quoted false rest with
      | none => none
      | some (body, after) =>
        have hafter : after.length ≤ rest.length := by simp [append_of_quoted hquoted]
        (items opened (pos.after (g :: body)) after).map
          (.after [.leaf .string (Text.normal (g :: body)) pos] (Nat.le_succ_of_le hafter))
    | .opens bracket =>
      if 256 < (bracket :: opened).length then none
      else do
        let inside ← items (bracket :: opened) (pos.advance g) rest
        let later ← items opened inside.pos inside.rest
        return later.after [.group bracket inside.forms pos] (Nat.le_succ_of_le inside.length_le)
    | .plain =>
      let word := g :: rest.takeWhile Glyph.isPlain
      let after := rest.dropWhile Glyph.isPlain
      if endsWord opened after then do
        let kind ← Reader.wordKind (Text.normal word)
        let later ← items opened (pos.after word) after
        return later.after [.leaf kind (Text.normal word) pos] (Nat.le_succ_of_le hword)
      else none
  termination_by t.length
  decreasing_by
    · simp
    · exact Nat.lt_succ_of_le hafter
    · simp
    · exact Nat.lt_succ_of_le inside.length_le
    · exact Nat.lt_succ_of_le hword

/-- The forms of a source text, read in one pass. -/
def read (source : Text) : Option (List Form) :=
  (items [] .start source).map Stretch.forms

/-- Reading a string glyph by glyph is closing it. -/
theorem quoted_eq_closeString (t : Text) : quoted false t = Reader.closeString t := by
  fun_induction Reader.closeString t with
  | case1 => rfl
  | case2 rest => rfl
  | case3 g rest ih =>
    rw [quoted, if_neg (by simp)]
    simp only [Bool.not_false, decide_true, Bool.and_self]
    rw [quoted, if_neg (by simp)]
    simp only [Bool.not_true, Bool.false_and, ih, Option.map_map]
    rfl
  | case4 g rest hquote hescape ih =>
    rw [quoted, if_neg (by simpa using hquote)]
    by_cases hg : g = .char '\\'
    · cases rest with
      | nil => rfl
      | cons next others => exact absurd rfl (hescape next others hg)
    · simp only [hg, decide_false, Bool.and_false, ih]

/-- The bracket that ends the forms inside open brackets, if any are open. -/
def ending : List Bracket → Text
  | [] => []
  | bracket :: _ => [bracket.closing]

/-- What spells forms starts with no closing bracket. -/
theorem not_closes_of_spells {depth : Nat} {pos : Position} {g : Glyph} {t : Text} {forms : List Form}
    (h : Reader.Spells depth pos (g :: t) forms) (bracket : Bracket) : g.role ≠ .closes bracket := by
  generalize hwhole : g :: t = whole at h
  cases h with
  | nil => cases hwhole
  | space space later =>
    cases hwhole
    rw [space]
    nofun
  | string quoted later =>
    cases hwhole
    nofun
  | @word depth pos word kind rest forms nonempty plain classified ends later =>
    cases word with
    | nil => exact absurd rfl nonempty
    | cons first more =>
      cases hwhole
      have hplain : g.role = .plain := of_decide_eq_true (plain g List.mem_cons_self)
      rw [hplain]
      nofun
  | group shallow inside later =>
    cases hwhole
    rw [Bracket.role_opening]
    nofun

/-- A word that may end in front of spelled forms is followed by a space, if by any of their glyphs. -/
theorem stops_of_endsWord {opened : List Bracket} {depth : Nat} {pos : Position} {interior rest : Text}
    {forms : List Form} (hends : endsWord opened (interior ++ rest) = true)
    (h : Reader.Spells depth pos interior forms) : Text.Stops Reader.notSpace interior := by
  cases interior with
  | nil => exact Text.stops_nil _
  | cons g more =>
    refine Text.stops_cons ?_ more
    rw [List.cons_append, endsWord] at hends
    have hcloses := not_closes_of_spells h
    cases hrole : g.role with
    | space => rw [Reader.notSpace, Glyph.isSpace_iff.mpr hrole, Bool.not_true]
    | closes bracket => exact absurd hrole (hcloses bracket)
    | quote => simp [hrole] at hends
    | opens bracket => simp [hrole] at hends
    | plain => simp [hrole] at hends

/-- A stretch of forms that the text spells up to the bracket that ends them. -/
def Stretch.Spelled (opened : List Bracket) (pos : Position) {t : Text} (s : Stretch t) : Prop :=
  ∃ interior, t = interior ++ (ending opened ++ s.rest) ∧ (opened = [] → s.rest = []) ∧
    s.pos = pos.after (interior ++ ending opened) ∧
    Reader.Spells opened.length pos interior s.forms

/-- A stretch is spelled by its text if what is read at the start of the text is, and the rest is
spelled by what follows. -/
theorem Stretch.Spelled.after {opened : List Bracket} {pos : Position} {t u start : Text}
    {first : List Form} {s : Stretch u} (h : s.Spelled opened (pos.after start)) (ht : t = start ++ u)
    (hle : u.length ≤ t.length)
    (hstart : ∀ interior, u = interior ++ (ending opened ++ s.rest) →
      Reader.Spells opened.length (pos.after start) interior s.forms →
      Reader.Spells opened.length pos (start ++ interior) (first ++ s.forms)) :
    (s.after first hle).Spelled opened pos := by
  obtain ⟨interior, hu, hend, hpos, hspells⟩ := h
  subst ht
  refine ⟨start ++ interior, ?_, hend, ?_, hstart interior hu hspells⟩
  · rw [List.append_assoc]
    exact congrArg (start ++ ·) hu
  · rw [List.append_assoc, Position.after_append]
    exact hpos

/-- What is read in one pass is spelled by the text. -/
theorem spelled_of_items (opened : List Bracket) (pos : Position) (t : Text) :
    ∀ s : Stretch t, items opened pos t = some s → s.Spelled opened pos := by
  fun_induction items opened pos t with
  | case1 pos =>
    rintro _ ⟨⟩
    exact ⟨[], rfl, fun _ => rfl, rfl, .nil⟩
  | case2 => nofun
  | case3 opened pos g rest _ hrole ih =>
    intro s hs
    obtain ⟨later, hlater, rfl⟩ := Option.map_eq_some_iff.mp hs
    have hspelled : later.Spelled opened (pos.after [g]) := ih later hlater
    exact hspelled.after rfl _ fun _ _ hspells => .space hrole hspells
  | case4 opened pos g rest _ bracket hrole hopened =>
    rintro _ ⟨⟩
    obtain ⟨outer, rfl⟩ := List.head?_eq_some_iff.mp hopened
    obtain rfl := Glyph.eq_closing hrole
    exact ⟨[], rfl, nofun, rfl, .nil⟩
  | case5 => nofun
  | case6 => nofun
  | case7 opened pos g rest _ hrole body after hquoted _ ih =>
    intro s hs
    obtain ⟨later, hlater, rfl⟩ := Option.map_eq_some_iff.mp hs
    obtain rfl := Glyph.eq_quote hrole
    rw [quoted_eq_closeString] at hquoted
    obtain ⟨hbody, hrest⟩ := Reader.closeString_eq_some_iff.mp hquoted
    refine (ih later hlater).after ?_ _ fun _ _ hspells => .string hbody hspells
    rw [hrest, List.cons_append]
  | case8 => nofun
  | case9 opened pos g rest _ bracket hrole hdepth ihInside ihLater =>
    intro s hs
    obtain ⟨inside, hinside, hs⟩ := Option.bind_eq_some_iff.mp hs
    obtain ⟨later, hlater, hs⟩ := Option.bind_eq_some_iff.mp hs
    cases hs
    obtain ⟨interior, hrest, -, hpos, hspells⟩ := ihInside inside hinside
    obtain rfl := Glyph.eq_opening hrole
    have hplace : inside.pos = pos.after (bracket.around interior) := hpos
    have hspelled := ihLater inside later hlater
    rw [hplace] at hspelled
    refine hspelled.after ?_ _ fun _ _ hlaterSpells => .group ?_ hspells hlaterSpells
    · simp only [Bracket.around, List.cons_append, List.append_assoc]
      exact congrArg (bracket.opening :: ·) hrest
    · exact Nat.lt_of_succ_le (Nat.not_lt.mp hdepth)
  | case10 opened pos g rest _ hrole word after hends ih =>
    intro s hs
    obtain ⟨kind, hkind, hs⟩ := Option.bind_eq_some_iff.mp hs
    obtain ⟨later, hlater, hs⟩ := Option.bind_eq_some_iff.mp hs
    cases hs
    have hplain : ∀ h ∈ word, h.isPlain = true := by
      refine List.forall_mem_cons.mpr ⟨?_, fun h hmem => List.mem_takeWhile_imp hmem⟩
      rw [Glyph.isPlain, hrole]
      rfl
    refine (ih later hlater).after ?_ _ fun interior hafter hspells => ?_
    · rw [List.cons_append, List.takeWhile_append_dropWhile]
    · rw [hafter] at hends
      exact .word (List.cons_ne_nil _ _) hplain hkind (stops_of_endsWord hends hspells) hspells
  | case11 => nofun

/-- A word ends in front of what starts with a space or with the ending bracket. -/
theorem endsWord_append {opened : List Bracket} {interior rest : Text}
    (hstops : Text.Stops Reader.notSpace interior) (hend : opened = [] → rest = []) :
    endsWord opened (interior ++ (ending opened ++ rest)) = true ∧
      Text.Stops Glyph.isPlain (interior ++ (ending opened ++ rest)) := by
  cases interior with
  | cons g more =>
    have hspace : g.role = .space := by
      have hnot := hstops g rfl
      rw [Reader.notSpace, Bool.not_eq_false'] at hnot
      exact Glyph.isSpace_iff.mp hnot
    constructor
    · simp [endsWord, hspace]
    · exact Text.stops_cons (by simp [Glyph.isPlain, hspace]) _
  | nil =>
    cases opened with
    | nil =>
      rw [hend rfl]
      exact ⟨rfl, Text.stops_nil _⟩
    | cons bracket outer =>
      constructor
      · simp [endsWord, ending, bracket.role_closing]
      · exact Text.stops_cons (by simp [Glyph.isPlain, bracket.role_closing]) _

/-- What is read in one pass, apart from the text that it is read of. -/
def outcome (opened : List Bracket) (pos : Position) (t : Text) :
    Option (List Form × Position × Text) :=
  (items opened pos t).map fun s => (s.forms, s.pos, s.rest)

/-- What is read after one more form. -/
def withForm (form : Form) : List Form × Position × Text → List Form × Position × Text
  | (forms, pos, rest) => (form :: forms, pos, rest)

/-- Reading ends at the ending bracket, or at the end of the text if none is open. -/
theorem outcome_ending {opened : List Bracket} {rest : Text} (hend : opened = [] → rest = [])
    (pos : Position) :
    outcome opened pos (ending opened ++ rest) = some ([], pos.after (ending opened), rest) := by
  cases opened with
  | nil =>
    rw [hend rfl, ending, List.append_nil, outcome, items]
    rfl
  | cons bracket outer =>
    simp only [outcome, ending, List.cons_append, List.nil_append, items, bracket.role_closing,
      List.head?_cons, if_pos, Option.map_some]
    rfl

/-- A space is passed over. -/
theorem outcome_space {g : Glyph} (hrole : g.role = .space) (opened : List Bracket) (pos : Position)
    (rest : Text) : outcome opened pos (g :: rest) = outcome opened (pos.advance g) rest := by
  simp only [outcome, items, hrole, Option.map_map]
  rfl

/-- A string is read, and then what follows it. -/
theorem outcome_string {body : Text} (hbody : Reader.Quoted body) (opened : List Bracket)
    (pos : Position) (rest : Text) :
    outcome opened pos (.char '"' :: (body ++ rest)) =
      (outcome opened (pos.after (.char '"' :: body)) rest).map
        (withForm (.leaf .string (Text.normal (.char '"' :: body)) pos)) := by
  have hrole : Glyph.role (.char '"') = .quote := rfl
  have hquoted : quoted false (body ++ rest) = some (body, rest) := by
    rw [quoted_eq_closeString, Reader.closeString_of_quoted hbody]
  simp only [outcome, items, hrole]
  split
  · rename_i hnone
    rw [hquoted] at hnone
    cases hnone
  · rename_i hsome
    rw [hquoted] at hsome
    cases hsome
    rw [Option.map_map, Option.map_map]
    rfl

/-- A word is read, and then what follows it. -/
theorem outcome_word {word rest : Text} {kind : Leaf} {opened : List Bracket} (nonempty : word ≠ [])
    (plain : ∀ g ∈ word, g.isPlain = true) (hkind : Reader.wordKind (Text.normal word) = some kind)
    (hends : endsWord opened rest = true) (hstops : Text.Stops Glyph.isPlain rest) (pos : Position) :
    outcome opened pos (word ++ rest) =
      (outcome opened (pos.after word) rest).map (withForm (.leaf kind (Text.normal word) pos)) := by
  cases word with
  | nil => exact absurd rfl nonempty
  | cons g tail =>
    obtain ⟨hg, htail⟩ := List.forall_mem_cons.mp plain
    have hrole : g.role = .plain := of_decide_eq_true hg
    have htake := Text.takeWhile_append_of_stops htail hstops
    have hdrop := Text.dropWhile_append_of_stops htail hstops
    rw [List.cons_append]
    generalize tail ++ rest = whole at htake hdrop
    subst htake hdrop
    simp only [outcome, items, hrole, hends, if_pos, hkind]
    cases items opened (pos.after (g :: whole.takeWhile Glyph.isPlain))
      (whole.dropWhile Glyph.isPlain) <;> rfl

/-- The forms of a bracket are read, and then what follows it. -/
theorem outcome_group {opened : List Bracket} {bracket : Bracket} {pos next : Position}
    {t rest : Text} {children : List Form} (shallow : opened.length < 256)
    (hinside : outcome (bracket :: opened) (pos.advance bracket.opening) t =
      some (children, next, rest)) :
    outcome opened pos (bracket.opening :: t) =
      (outcome opened next rest).map (withForm (.group bracket children pos)) := by
  obtain ⟨inside, hitems, hview⟩ := Option.map_eq_some_iff.mp hinside
  cases hview
  have hdepth : ¬ 256 < (bracket :: opened).length := Nat.not_lt.mpr shallow
  simp only [outcome, items, bracket.role_opening, if_neg hdepth, hitems]
  dsimp only [bind, Option.bind]
  cases items opened inside.pos inside.rest <;> rfl

/-- What a text spells up to the bracket that ends it is read in one pass. -/
theorem outcome_of_spells {depth : Nat} {pos : Position} {interior : Text} {forms : List Form}
    (h : Reader.Spells depth pos interior forms) (opened : List Bracket)
    (hdepth : depth = opened.length) (rest : Text) (hend : opened = [] → rest = []) :
    outcome opened pos (interior ++ (ending opened ++ rest)) =
      some (forms, pos.after (interior ++ ending opened), rest) := by
  induction h generalizing opened rest with
  | @nil depth pos => exact outcome_ending hend pos
  | @space depth pos g more forms space later ih =>
    rw [List.cons_append, outcome_space space, ih opened hdepth rest hend]
    rfl
  | @string depth pos body more forms hbody later ih =>
    rw [List.append_assoc, List.cons_append, outcome_string hbody, ih opened hdepth rest hend,
      List.append_assoc, ← Position.after_append]
    rfl
  | @word depth pos word kind more forms nonempty plain classified ends later ih =>
    obtain ⟨hends, hstops⟩ := endsWord_append ends hend
    rw [List.append_assoc, outcome_word nonempty plain classified hends hstops,
      ih opened hdepth rest hend, List.append_assoc, ← Position.after_append]
    rfl
  | @group depth pos bracket interior more children forms shallow inside later ihInside ihLater =>
    have hinside := ihInside (bracket :: opened) (congrArg (· + 1) hdepth)
      (more ++ (ending opened ++ rest)) nofun
    have htext : bracket.around interior ++ more ++ (ending opened ++ rest) =
        bracket.opening ::
          (interior ++ (ending (bracket :: opened) ++ (more ++ (ending opened ++ rest)))) := by
      simp [Bracket.around, ending]
    rw [htext, outcome_group (hdepth ▸ shallow) hinside]
    change (outcome opened (pos.after (bracket.around interior)) _).map _ = _
    rw [ihLater opened hdepth rest hend, List.append_assoc, ← Position.after_append]
    rfl

end Descent

/-- Reading by recursive descent in one pass accepts the same texts as reading after a search for the
closing brackets, and yields the same forms at the same places. -/
theorem read_eq_ok_iff_descent (source : Text) (forms : List Form) :
    read source = .ok forms ↔ Descent.read source = some forms := by
  rw [read_eq_ok_iff]
  constructor
  · intro hspells
    have houtcome := Descent.outcome_of_spells hspells [] rfl [] fun _ => rfl
    rw [Descent.ending, List.append_nil, List.append_nil] at houtcome
    obtain ⟨s, hitems, hview⟩ := Option.map_eq_some_iff.mp houtcome
    rw [Descent.read, hitems]
    exact congrArg some (congrArg Prod.fst hview)
  · intro hread
    obtain ⟨s, hitems, rfl⟩ := Option.map_eq_some_iff.mp hread
    obtain ⟨interior, hsource, hend, -, hspells⟩ := Descent.spelled_of_items [] .start source s hitems
    rw [hend rfl, Descent.ending, List.append_nil, List.append_nil] at hsource
    exact hsource.symm ▸ hspells

end SwiftForms
