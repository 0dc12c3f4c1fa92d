import Mathlib.Data.List.Induction
import SwiftForms.Proofs.Form.Concatenation
import SwiftForms.Proofs.Form.Grammar

/-!
# Positions of forms and faults

A place in a text is given by the number of glyphs in front of it; the newlines among these glyphs tell
its line and its column. Main statement: every form that is read stands at its place, its text is what
stands there, the forms inside it lie between its brackets and no two neighbours share a glyph. An error
names the place of the offending part.
-/

namespace SwiftForms

/-- The place behind the first `n` glyphs of a text: the lines are divided by newlines, and the columns
are counted from the last newline. -/
def Text.place (t : Text) (n : Nat) : Position where
  offset := n
  line := 1 + (t.take n).count newline
  column := 1 + ((t.take n).reverse.takeWhile fun g => g ≠ newline).length

/-- The column after a text counts the glyphs behind its last newline. -/
theorem Position.column_after (t : Text) :
    (Position.start.after t).column = 1 + (t.reverse.takeWhile fun g => g ≠ newline).length := by
  induction t using List.reverseRecOn with
  | nil => rfl
  | append_singleton t g ih =>
    rw [after_append, after_cons, after_nil, List.reverse_append, List.reverse_singleton,
      List.singleton_append]
    by_cases hg : g = newline
    · subst hg
      have hstops : (newline :: t.reverse).takeWhile (fun g => g ≠ newline) = [] :=
        List.takeWhile_cons_of_neg (by simp)
      rw [advance_newline, hstops]
      rfl
    · have hadvance : (start.after t).advance g =
          ⟨(start.after t).offset + 1, (start.after t).line, (start.after t).column + 1⟩ := if_neg hg
      have hgoes : (g :: t.reverse).takeWhile (fun g => g ≠ newline) =
          g :: t.reverse.takeWhile fun g => g ≠ newline :=
        List.takeWhile_cons_of_pos (by simpa using hg)
      rw [hadvance, ih, hgoes, List.length_cons]
      dsimp only
      omega

/-- Moving over the first part of a text leads to its place. -/
theorem Text.place_append (before rest : Text) :
    (before ++ rest).place before.length = Position.start.after before := by
  have hcounts := Position.offset_line_after .start before
  have hoffset : (Position.start.after before).offset = before.length :=
    hcounts.1.trans (Int.zero_add _)
  have hline : (Position.start.after before).line = 1 + before.count newline := hcounts.2
  have hcolumn := Position.column_after before
  have htake : (before ++ rest).take before.length = before := List.take_left
  rw [Text.place, htake, ← hoffset, ← hline, ← hcolumn]

/-- The positions that are looked up in the lines of a text are its places. -/
theorem LineTable.position_eq_place {t : Text} {n : Nat} (h : n ≤ t.length) :
    (LineTable.ofText t).position n = t.place n := by
  have hplace := Text.place_append (t.take n) (t.drop n)
  rw [List.take_append_drop, List.length_take, Nat.min_eq_left h] at hplace
  rw [position_ofText h, hplace]

/-- Forms that stand in a text one after another, all of them behind its first `start` glyphs and among
its first `stop` ones. -/
inductive Stand (source : Text) : Nat → Nat → List Form → Prop
  /-- No forms. -/
  | nil {start stop} (room : start ≤ stop) : Stand source start stop []
  /-- A word takes up as many glyphs as its text has, and its text is what the reader takes them for. A
  string starts with its quote. -/
  | leaf {start stop n kind text rest} (first : start ≤ n) (nonempty : text ≠ [])
    (spelled : text = Text.normal ((source.drop n).take text.length))
    (quote : kind = .string → source[n]? = some (.char '"'))
    (later : Stand source (n + text.length) stop rest) :
    Stand source start stop (.leaf kind text (source.place n) :: rest)
  /-- A list or a vector goes from its opening bracket through its closing one, and the forms in it stand
  between the two. -/
  | group {start stop n close bracket children rest} (first : start ≤ n)
    (opening : source[n]? = some bracket.opening) (closing : source[close]? = some bracket.closing)
    (inside : Stand source (n + 1) close children) (later : Stand source (close + 1) stop rest) :
    Stand source start stop (.group bracket children (source.place n) :: rest)

namespace Stand

variable {source : Text} {start stop : Nat} {forms : List Form}

/-- The room of forms does not end before it starts. -/
theorem le (h : Stand source start stop forms) : start ≤ stop := by
  induction h with
  | nil room => exact room
  | leaf first nonempty spelled quote later ih => omega
  | group first opening closing inside later ihInside ihLater => omega

/-- The room of forms may start earlier. -/
theorem widen (h : Stand source start stop forms) {earlier : Nat} (hle : earlier ≤ start) :
    Stand source earlier stop forms := by
  cases h with
  | nil room => exact .nil (hle.trans room)
  | leaf first nonempty spelled quote later =>
    exact .leaf (hle.trans first) nonempty spelled quote later
  | group first opening closing inside later =>
    exact .group (hle.trans first) opening closing inside later

end Stand

mutual

/-- A form and all forms inside it, each in front of those inside it. -/
def Form.preorder : Form → List Form
  | .leaf kind text pos => [.leaf kind text pos]
  | .group bracket children pos => .group bracket children pos :: preorderAll children

/-- Forms one after another, each with all forms inside it. -/
def preorderAll : List Form → List Form
  | [] => []
  | form :: rest => form.preorder ++ preorderAll rest

end

namespace Stand

variable {source : Text} {start stop : Nat} {forms : List Form}

/-- Every form starts in the room of the forms that it belongs to. -/
theorem offset_bounds (h : Stand source start stop forms) :
    ∀ form ∈ preorderAll forms, (start : Int) ≤ form.pos.offset ∧ form.pos.offset < stop := by
  induction h with
  | nil room => exact List.forall_mem_nil _
  | @leaf start stop n kind text rest first nonempty spelled quote later ih =>
    have hlength := List.length_pos_iff.mpr nonempty
    have hle := later.le
    have hoffset : (source.place n).offset = n := rfl
    refine List.forall_mem_cons.mpr ⟨?_, fun form hform => ?_⟩
    · rw [Form.pos, hoffset]
      omega
    · have hbounds := ih form hform
      omega
  | @group start stop n close bracket children rest first opening closing inside later ihInside
      ihLater =>
    have hinside := inside.le
    have hlater := later.le
    have hoffset : (source.place n).offset = n := rfl
    refine List.forall_mem_cons.mpr ⟨?_, List.forall_mem_append.mpr ⟨?_, ?_⟩⟩
    · rw [Form.pos, hoffset]
      omega
    · intro form hform
      have hbounds := ihInside form hform
      omega
    · intro form hform
      have hbounds := ihLater form hform
      omega

/-- Each form starts behind the start of every form in front of it, also of those around it. -/
theorem offsets_increase (h : Stand source start stop forms) :
    (preorderAll forms).Pairwise fun f g => f.pos.offset < g.pos.offset := by
  induction h with
  | nil room => exact .nil
  | @leaf start stop n kind text rest first nonempty spelled quote later ih =>
    have hlength := List.length_pos_iff.mpr nonempty
    have hoffset : (source.place n).offset = n := rfl
    refine List.pairwise_cons.mpr ⟨fun form hform => ?_, ih⟩
    have hbounds := later.offset_bounds form hform
    rw [Form.pos, hoffset]
    omega
  | @group start stop n close bracket children rest first opening closing inside later ihInside
      ihLater =>
    have hinside := inside.le
    have hoffset : (source.place n).offset = n := rfl
    refine List.pairwise_cons.mpr ⟨?_, List.pairwise_append.mpr ⟨ihInside, ihLater, ?_⟩⟩
    · refine List.forall_mem_append.mpr ⟨fun form hform => ?_, fun form hform => ?_⟩
      · have hbounds := inside.offset_bounds form hform
        rw [Form.pos, hoffset]
        omega
      · have hbounds := later.offset_bounds form hform
        rw [Form.pos, hoffset]
        omega
    · intro child hchild form hform
      have hchildBounds := inside.offset_bounds child hchild
      have hbounds := later.offset_bounds form hform
      omega

end Stand

namespace Reader

/-- A word stands where the text in front of it ends. -/
theorem stand_word {source before spelled rest : Text} (hsource : source = before ++ (spelled ++ rest))
    (hne : spelled ≠ []) {kind : Leaf} (hquote : kind = .string → spelled.head? = some (.char '"'))
    {stop : Nat} {forms : List Form} (hlater : Stand source (before ++ spelled).length stop forms) :
    Stand source before.length stop
      (.leaf kind (Text.normal spelled) (Position.start.after before) :: forms) := by
  have hplace : source.place before.length = Position.start.after before := by
    rw [hsource, Text.place_append]
  have hdrop : source.drop before.length = spelled ++ rest := by
    rw [hsource, List.drop_left]
  have hlength : (Text.normal spelled).length = spelled.length := List.length_map _
  have htake : (source.drop before.length).take (Text.normal spelled).length = spelled := by
    rw [hlength, hdrop, List.take_left]
  have hfirst : source[before.length]? = spelled.head? := by
    rw [← List.head?_drop, hdrop, List.head?_append_of_ne_nil _ hne]
  rw [List.length_append, ← hlength] at hlater
  rw [← hplace]
  refine .leaf le_rfl (List.map_eq_nil_iff.not.mpr hne) (by rw [htake]) ?_ hlater
  intro hkind
  rw [hfirst, hquote hkind]

/-- Forms in brackets stand where the text in front of the brackets ends. -/
theorem stand_group {source before interior rest : Text} {bracket : Bracket}
    (hsource : source = before ++ (bracket.around interior ++ rest)) {stop : Nat}
    {children forms : List Form}
    (hinside : Stand source (before ++ [bracket.opening]).length
      (before ++ [bracket.opening] ++ interior).length children)
    (hlater : Stand source (before ++ bracket.around interior).length stop forms) :
    Stand source before.length stop
      (.group bracket children (Position.start.after before) :: forms) := by
  have hplace : source.place before.length = Position.start.after before := by
    rw [hsource, Text.place_append]
  have hopening : source[before.length]? = some bracket.opening := by
    rw [hsource, Bracket.around]
    simp
  have hclosing : source[(before ++ [bracket.opening] ++ interior).length]? = some bracket.closing := by
    rw [hsource, Bracket.around]
    simp
  have hbehind : (before ++ bracket.around interior).length =
      (before ++ [bracket.opening] ++ interior).length + 1 := by
    simp only [Bracket.around, List.length_append, List.length_cons, List.length_nil]
    omega
  rw [hbehind] at hlater
  rw [← hplace]
  refine .group le_rfl hopening hclosing ?_ hlater
  rwa [List.length_append, List.length_singleton] at hinside

/-- What a part of a text spells stands in the text where that part is. -/
theorem Spells.stand {depth : Nat} {pos : Position} {t : Text} {forms : List Form}
    (h : Spells depth pos t forms) {source : Text} (before after : Text)
    (hsource : source = before ++ (t ++ after)) (hpos : pos = Position.start.after before) :
    Stand source before.length (before ++ t).length forms := by
  induction h generalizing before after with
  | nil => exact .nil (by simp)
  | @space depth pos g rest forms space later ih =>
    have hlater := ih (before ++ [g]) after (by simp [hsource])
      (by rw [hpos, Position.after_append]; rfl)
    rw [List.append_assoc, List.singleton_append] at hlater
    exact hlater.widen (by simp)
  | @string depth pos body rest forms quoted later ih =>
    have hlater := ih (before ++ .char '"' :: body) after (by simp [hsource])
      (by rw [hpos, Position.after_append])
    rw [List.append_assoc] at hlater
    subst hpos
    have hword : source = before ++ ((.char '"' :: body) ++ (rest ++ after)) := by simp [hsource]
    exact stand_word hword (List.cons_ne_nil _ _) (fun _ => rfl) hlater
  | @word depth pos word kind rest forms nonempty plain classified ends later ih =>
    have hlater := ih (before ++ word) after (by simp [hsource])
      (by rw [hpos, Position.after_append])
    rw [List.append_assoc] at hlater
    subst hpos
    have hword : source = before ++ (word ++ (rest ++ after)) := by simp [hsource]
    refine stand_word hword nonempty (fun hkind => ?_) hlater
    -- A word that is no string has no quote in it and is not classified as a string.
    subst hkind
    simp only [wordKind] at classified
    split at classified
    · cases classified
    · split at classified <;> cases classified
  | @group depth pos bracket interior rest children forms shallow inside later ihInside ihLater =>
    have hinside := ihInside (before ++ [bracket.opening])
      (bracket.closing :: (rest ++ after)) (by simp [hsource, Bracket.around])
      (by rw [hpos, Position.after_append]; rfl)
    have hlater := ihLater (before ++ bracket.around interior) after
      (by simp [hsource]) (by rw [hpos, Position.after_append])
    rw [List.append_assoc] at hlater
    subst hpos
    have hgroup : source = before ++ (bracket.around interior ++ (rest ++ after)) := by simp [hsource]
    exact stand_group hgroup hinside hlater

/-- A search that a bracket of the wrong kind ends has seen the text through that bracket. -/
theorem prefix_of_mismatched {outer : Bracket} {mode : Mode} {inner : List Bracket} {t seen : Text}
    (h : enclose outer mode inner t = .mismatched seen) : seen <+: t := by
  induction t generalizing mode inner seen with
  | nil => cases mode <;> cases h
  | cons g tail ih =>
    rw [enclose_cons] at h
    cases hturn : turn outer mode inner g with
    | onward mode' inner' =>
      rw [hturn] at h
      cases hlater : enclose outer mode' inner' tail with
      | mismatched seen' =>
        simp only [hlater, Enclosed.cons, Enclosed.mismatched.injEq] at h
        rw [← h]
        exact List.cons_prefix_cons.mpr ⟨rfl, ih hlater⟩
      | closed interior rest => simp [hlater, Enclosed.cons] at h
      | openString => simp [hlater, Enclosed.cons] at h
      | openForm => simp [hlater, Enclosed.cons] at h
    | found =>
      rw [hturn] at h
      cases h
    | wrong =>
      rw [hturn] at h
      cases h
      exact List.cons_prefix_cons.mpr ⟨rfl, List.nil_prefix⟩

/-- The offending part of a text with a fault at its head is the start of the text, and is not empty. -/
theorem fragment_of_head {depth : Nat} {t fragment : Text} {fault : ReadFault}
    (h : head depth t = .fault fault fragment) : fragment ≠ [] ∧ fragment <+: Text.normal t := by
  have hpart : ∀ {g : Glyph} {seen rest : Text}, seen <+: rest →
      Text.normal (g :: seen) ≠ [] ∧ Text.normal (g :: seen) <+: Text.normal (g :: rest) := by
    intro g seen rest hseen
    refine ⟨List.cons_ne_nil _ _, ?_⟩
    exact (List.cons_prefix_cons.mpr ⟨rfl, hseen⟩).map Glyph.normal
  cases t with
  | nil => cases h
  | cons g rest =>
    cases hrole : g.role with
    | space => simp [head, hrole] at h
    | closes bracket =>
      simp only [head, hrole, Head.fault.injEq] at h
      rw [← h.2]
      exact hpart List.nil_prefix
    | quote =>
      cases hclose : closeString rest with
      | none =>
        simp only [head, hrole, hclose, Head.fault.injEq] at h
        rw [← h.2]
        exact hpart (List.prefix_refl rest)
      | some pair => simp [head, hrole, hclose] at h
    | opens bracket =>
      simp only [head, hrole] at h
      split at h
      · cases h
        exact hpart (List.prefix_refl rest)
      · cases henclose : enclose bracket .code [] rest with
        | closed interior after => simp [henclose] at h
        | openString =>
          simp only [henclose, Head.fault.injEq] at h
          rw [← h.2]
          exact hpart (List.prefix_refl rest)
        | openForm =>
          simp only [henclose, Head.fault.injEq] at h
          rw [← h.2]
          exact hpart (List.prefix_refl rest)
        | mismatched seen =>
          simp only [henclose, Head.fault.injEq] at h
          rw [← h.2]
          exact hpart (prefix_of_mismatched henclose)
    | plain =>
      cases hkind : classify (Text.normal (g :: rest.takeWhile fun h => !h.isSpace)) with
      | ok kind => simp [head, hrole, hkind] at h
      | error cause =>
        simp only [head, hrole, hkind, Head.fault.injEq] at h
        rw [← h.2]
        exact hpart (List.takeWhile_prefix _)

/-- An error in a part of a text names a place of the text, and its fragment is what the reader takes the
text for from that place on. -/
theorem placed_of_error {depth : Nat} {pos : Position} {t : Text} {e : ReadError}
    (h : readForms depth pos t = .error e) {source : Text} (before after : Text)
    (hsource : source = before ++ (t ++ after)) (hpos : pos = Position.start.after before) :
    ∃ n, e.pos = source.place n ∧ e.fragment ≠ [] ∧ e.fragment <+: Text.normal (source.drop n) := by
  induction depth, pos, t using head_induction generalizing before after with
  | done depth pos t hhead =>
    rw [readForms_eq, hhead] at h
    cases h
  | fault depth pos t fault fragment hhead =>
    rw [readForms_eq, hhead] at h
    cases h
    have hfragment := fragment_of_head hhead
    have hplace : source.place before.length = pos := by
      rw [hsource, Text.place_append, hpos]
    have hdrop : Text.normal (source.drop before.length) = Text.normal t ++ Text.normal after := by
      rw [hsource, List.drop_left, Text.normal, List.map_append]
      rfl
    refine ⟨before.length, hplace.symm, hfragment.1, ?_⟩
    rw [hdrop]
    exact hfragment.2.trans (List.prefix_append _ _)
  | space depth pos t g rest hhead ih =>
    rw [readForms_eq, hhead] at h
    exact ih h (before ++ [g]) after
      (by rw [hsource, eq_of_head_space hhead]; simp) (by rw [hpos, Position.after_append]; rfl)
  | word depth pos t kind spelled rest hhead ih =>
    rw [readForms_eq, hhead] at h
    rcases Fallible.bind_eq_error.mp h with hrest | ⟨forms, -, hforms⟩
    · exact ih hrest (before ++ spelled) after
        (by rw [hsource, (eq_of_head_word hhead).1]; simp) (by rw [hpos, Position.after_append])
    · cases hforms
  | group depth pos t bracket interior rest hhead ihInside ihRest =>
    rw [readForms_eq, hhead] at h
    have ht := eq_of_head_group hhead
    rcases Fallible.bind_eq_error.mp h with hinside | ⟨children, -, hlater⟩
    · exact ihInside hinside (before ++ [bracket.opening])
        (bracket.closing :: (rest ++ after)) (by rw [hsource, ht]; simp [Bracket.around])
        (by rw [hpos, Position.after_append]; rfl)
    · rcases Fallible.bind_eq_error.mp hlater with hrest | ⟨forms, -, hforms⟩
      · exact ihRest hrest (before ++ bracket.around interior) after
          (by rw [hsource, ht]; simp) (by rw [hpos, Position.after_append])
      · cases hforms

end Reader

/-- Every offset has a line, and the position that is looked up for an offset in a source is its place.
Forms that are read stand in their source one after another, every one of them at its place, and each
starts behind those in front of it. An error names the place where its fragment stands in the source. -/
theorem read_placed (source : Text) :
    (∀ n, 0 < (LineTable.ofText source).line n) ∧
    (∀ n ≤ source.length, (LineTable.ofText source).position n = source.place n) ∧
    (∀ forms, read source = .ok forms →
      Stand source 0 source.length forms ∧
        (preorderAll forms).Pairwise fun f g => f.pos.offset < g.pos.offset) ∧
    ∀ e, read source = .error e →
      ∃ n, e.pos = source.place n ∧ e.fragment ≠ [] ∧ e.fragment <+: Text.normal (source.drop n) := by
  have hsource : source = [] ++ (source ++ []) := by rw [List.append_nil, List.nil_append]
  refine ⟨LineTable.line_pos _, fun n => LineTable.position_eq_place, fun forms h => ?_, fun e h => ?_⟩
  · have hstand := (read_eq_ok_iff.mp h).stand [] [] hsource rfl
    exact ⟨hstand, hstand.offsets_increase⟩
  · rw [read_eq] at h
    exact Reader.placed_of_error h [] [] hsource rfl

/-- A call over three lines, with a string over two of them, a stray byte and a carriage return. -/
def acrossLines : Text :=
  Text.ofString "(f\n\t[\"a\n)\" " ++ .stray 0xFF :: Text.ofString "]\r x)"

/-- The forms of that call. -/
def acrossLinesForms : List Form :=
  [.group .round
    [.leaf .atom "f" ⟨1, 1, 2⟩,
      .group .square [.leaf .string "\"a )\"" ⟨5, 2, 3⟩, .leaf .atom "\uFFFD" ⟨11, 3, 4⟩] ⟨4, 2, 2⟩,
      .leaf .atom "x" ⟨15, 3, 8⟩]
    ⟨0, 1, 1⟩]

/-- The forms of the call over three lines stand at their places, and a malformed number inside two
brackets is found on its line. -/
theorem read_placed_acrossLines :
    read acrossLines = .ok acrossLinesForms ∧
      Stand acrossLines 0 acrossLines.length acrossLinesForms ∧
      ((preorderAll acrossLinesForms).Pairwise fun f g => f.pos.offset < g.pos.offset) ∧
      read "(f\n  [1x])" = .error ⟨.malformedNumber, "1x", ⟨6, 2, 4⟩⟩ ∧
      ∃ n, ⟨6, 2, 4⟩ = Text.place "(f\n  [1x])" n ∧ Text.ofString "1x" ≠ [] ∧
        Text.ofString "1x" <+: Text.normal (List.drop n (Text.ofString "(f\n  [1x])")) := by
  have hread : read acrossLines = .ok acrossLinesForms := by
    with_unfolding_all rfl
  have herror : read "(f\n  [1x])" = .error ⟨.malformedNumber, "1x", ⟨6, 2, 4⟩⟩ := by
    with_unfolding_all rfl
  obtain ⟨-, -, hforms, -⟩ := read_placed acrossLines
  obtain ⟨-, -, -, hfault⟩ := read_placed "(f\n  [1x])"
  have hplaced := hforms acrossLinesForms hread
  exact ⟨hread, hplaced.1, hplaced.2, herror, hfault _ herror⟩

end SwiftForms
