import SwiftForms.Proofs.Form.Concatenation
import SwiftForms.Proofs.Swift.Texts
import SwiftForms.Proofs.Text.Lines

/-!
# Programs as rows

A statement is laid out here from the outside in: every row has the depth of the blocks around it, and is
indented by four spaces for each of them. Main statement: if the texts of a program are lines of their
own, its rows are the lines that it is printed in, although printing indents the lines of a body again
at every block around it.
-/

namespace SwiftForms

/-- A text that stands on a line of its own, and is not empty. -/
structure Text.OneLine (t : Text) : Prop where
  /-- It has no newline. -/
  noNewline : newline ∉ t
  /-- It is not empty. -/
  ne_nil : t ≠ []

namespace Text

instance (t : Text) : Decidable t.OneLine :=
  decidable_of_iff (newline ∉ t ∧ t ≠ []) ⟨fun h => ⟨h.1, h.2⟩, fun h => ⟨h.1, h.2⟩⟩

variable {t u : Text}

/-- A text without newlines may follow on the line. -/
theorem OneLine.append (h : t.OneLine) (hu : newline ∉ u) : (t ++ u).OneLine := by
  refine ⟨?_, List.append_ne_nil_of_left_ne_nil h.ne_nil u⟩
  rw [List.mem_append]
  exact fun hmem => hmem.elim h.noNewline hu

/-- Texts on a line may be joined on that line. -/
theorem newline_not_mem_join {separator : Text} {parts : List Text} (hseparator : newline ∉ separator)
    (hparts : ∀ t ∈ parts, newline ∉ t) : newline ∉ join separator parts := by
  intro hmem
  rcases mem_join hmem with hin | ⟨t, ht, hin⟩
  · exact hseparator hin
  · exact hparts t ht hin

end Text

/-- `line` is a line of a text, without its newline, and `before` is what stands in front of it. -/
structure Text.HasLine (t before line : Text) : Prop where
  /-- It is a single line. -/
  single : newline ∉ line
  /-- It starts the text, or a newline stands before it. -/
  starts : before = [] ∨ before.getLast? = some newline
  /-- A newline follows it. -/
  ends : ∃ after, t = before ++ line ++ newline :: after

/-- A line at some depth of blocks. -/
structure Row where
  /-- The number of blocks around it. -/
  depth : Nat
  /-- What it says. -/
  text : Text
  deriving DecidableEq, Repr

namespace Row

/-- The spaces in front of what stands inside so many blocks. -/
def spaces (depth : Nat) : Text :=
  List.replicate (4 * depth) (.char ' ')

/-- A row with its spaces. -/
def line (row : Row) : Text :=
  spaces row.depth ++ row.text

/-- A row with its spaces and the newline after it. -/
def print (row : Row) : Text :=
  row.line ++ [newline]

/-- One more block around a line puts four more spaces in front of it. -/
theorem spaces_succ (depth : Nat) (t : Text) :
    spaces depth ++ (Stmt.indentation ++ t) = spaces (depth + 1) ++ t := by
  have hindentation : Stmt.indentation = List.replicate 4 (.char ' ') := rfl
  rw [← List.append_assoc, hindentation, spaces, spaces, List.replicate_append_replicate, Nat.mul_succ]

/-- A row on a single line is a single line with its spaces. -/
theorem newline_not_mem_line {row : Row} (h : newline ∉ row.text) : newline ∉ row.line := by
  have hspace : newline ≠ .char ' ' := by decide
  rw [line, List.mem_append]
  rintro (hspaces | htext)
  · exact hspace (List.eq_of_mem_replicate hspaces)
  · exact h htext

/-- Printed rows are empty or end in a newline. -/
theorem getLast?_flatMap_print (rows : List Row) :
    rows.flatMap print = [] ∨ (rows.flatMap print).getLast? = some newline := by
  induction rows with
  | nil => exact .inl rfl
  | cons row rest ih =>
    rw [List.flatMap_cons]
    rcases ih with hnil | hlast
    · rw [hnil, List.append_nil]
      exact .inr List.getLast?_concat
    · right
      rw [List.getLast?_append, hlast]
      rfl

/-- A line in front of which whole lines stand is behind the first of them, or is itself the first. -/
theorem eq_or_exists_of_hasLine {first rest before line : Text} (hfirst : newline ∉ first)
    (h : (first ++ newline :: rest).HasLine before line) :
    (before = [] ∧ line = first) ∨
      ∃ others, before = first ++ newline :: others ∧ rest.HasLine others line := by
  obtain ⟨after, hwhole⟩ := h.ends
  by_cases hmem : newline ∈ before
  · obtain ⟨start, others, hbefore, hstart⟩ := List.eq_append_cons_of_mem hmem
    rw [hbefore, List.append_assoc, List.append_assoc, List.cons_append] at hwhole
    obtain ⟨rfl, hrest⟩ := Text.append_cons_inj hfirst hstart hwhole
    refine .inr ⟨others, hbefore, h.single, ?_, after, by rw [hrest, List.append_assoc]⟩
    cases others with
    | nil => exact .inl rfl
    | cons g more =>
      have hne : before ≠ [] := List.ne_nil_of_mem hmem
      have hlast := h.starts.resolve_left hne
      rw [hbefore, List.getLast?_append_cons, List.getLast?_cons_cons] at hlast
      exact .inr hlast
  · have hnil : before = [] := by
      rcases h.starts with hnil | hlast
      · exact hnil
      · exact absurd (List.mem_of_getLast? hlast) hmem
    rw [hnil, List.nil_append] at hwhole
    exact .inl ⟨hnil, (Text.append_cons_inj hfirst h.single hwhole).1.symm⟩

/-- The lines of printed rows are the rows with their spaces. -/
theorem exists_of_hasLine {rows : List Row} (hrows : ∀ row ∈ rows, newline ∉ row.text)
    {before line : Text} (h : Text.HasLine (rows.flatMap print) before line) :
    ∃ earlier row later, rows = earlier ++ row :: later ∧ before = earlier.flatMap print ∧
      line = row.line := by
  induction rows generalizing before with
  | nil =>
    obtain ⟨after, hwhole⟩ := h.ends
    exact absurd hwhole.symm (List.append_ne_nil_of_right_ne_nil _ (List.cons_ne_nil _ _))
  | cons row rest ih =>
    obtain ⟨hrow, hrest⟩ := List.forall_mem_cons.mp hrows
    rw [List.flatMap_cons, print, List.append_assoc, List.singleton_append] at h
    rcases eq_or_exists_of_hasLine (newline_not_mem_line hrow) h with
      ⟨rfl, rfl⟩ | ⟨others, rfl, hothers⟩
    · exact ⟨[], row, rest, rfl, rfl, rfl⟩
    · obtain ⟨earlier, found, later, rfl, rfl, rfl⟩ := ih hrest hothers
      refine ⟨row :: earlier, found, later, rfl, ?_, rfl⟩
      rw [List.flatMap_cons, print, List.append_assoc, List.singleton_append]

end Row

namespace Stmt

mutual

/-- The rows of a statement that stands inside so many blocks. -/
def rows (depth : Nat) : Stmt → List Row
  | .value text => [⟨depth, text⟩]
  | .blank => [⟨depth, []⟩]
  | .ret text => [⟨depth, "return " ++ text⟩]
  | .function name params body =>
    ⟨depth, attributeLine⟩ :: ⟨depth, functionHeader name params⟩ :: rowsAll (depth + 1) body ++
      [⟨depth, closingLine⟩]
  | .ifThen test yes => ⟨depth, ifHeader test⟩ :: rowsAll (depth + 1) yes ++ [⟨depth, closingLine⟩]
  | .ifElse test yes no =>
    ⟨depth, ifHeader test⟩ :: rowsAll (depth + 1) yes ++
      ⟨depth, elseLine⟩ :: rowsAll (depth + 1) no ++ [⟨depth, closingLine⟩]
  | .block bindings body =>
    ⟨depth, blockHeader⟩ :: (bindings.map (fun b => ⟨depth + 1, bindingLine b⟩) ++
      rowsAll (depth + 1) body) ++ [⟨depth, closingLine⟩]

/-- The rows of statements one after another. -/
def rowsAll (depth : Nat) : List Stmt → List Row
  | [] => []
  | statement :: rest => rows depth statement ++ rowsAll depth rest

end

section OneLine

variable {test name : Text} {params : List Text}

/-- The line that opens a conditional is a line of its own if its test is. -/
theorem oneLine_ifHeader (h : test.OneLine) : (ifHeader test).OneLine := by
  have hstart : (Text.ofString "if (truthy(").OneLine := by decide
  exact (hstart.append h.noNewline).append (by decide)

/-- A return is a line of its own if its value is. -/
theorem oneLine_ret (h : test.OneLine) : (Text.ofString "return " ++ test).OneLine := by
  have hstart : (Text.ofString "return ").OneLine := by decide
  exact hstart.append h.noNewline

/-- A binding is a line of its own if its name and its value are. -/
theorem oneLine_bindingLine (h : name.OneLine) (hvalue : test.OneLine) :
    (bindingLine (name, test)).OneLine := by
  have hstart : (Text.ofString "let ").OneLine := by decide
  have htype := ((hstart.append h.noNewline).append (u := ": ") (by decide)).append (u := valueType)
    (by decide)
  exact (htype.append (by decide)).append hvalue.noNewline

/-- A parameter has no newline if its name has none. -/
theorem newline_not_mem_param (h : name.OneLine) : newline ∉ param name := by
  have hstart : (Text.ofString "_ ").OneLine := by decide
  exact (((hstart.append h.noNewline).append (u := ": ") (by decide)).append (u := valueType)
    (by decide)).noNewline

/-- The line that opens a function is a line of its own if its identifiers are. -/
theorem oneLine_functionHeader (h : name.OneLine) (hparams : ∀ p ∈ params, p.OneLine) :
    (functionHeader name params).OneLine := by
  have hstart : (Text.ofString "func ").OneLine := by decide
  have hjoined : newline ∉ Text.join ", " (params.map param) :=
    Text.newline_not_mem_join (by decide)
      (List.forall_mem_map.mpr fun p hp => newline_not_mem_param (hparams p hp))
  have hopened := (hstart.append h.noNewline).append (u := "(") (by decide)
  have hclosed := (hopened.append hjoined).append (u := ") -> ") (by decide)
  exact (hclosed.append (u := valueType) (by decide)).append (by decide)

/-- Rows between the row that opens a body and the one that closes it. -/
theorem oneLine_body {depth : Nat} {opener : Row} {inner : List Row} (h : opener.text.OneLine)
    (hinner : ∀ row ∈ inner, row.text.OneLine) :
    ∀ row ∈ opener :: inner ++ [⟨depth, closingLine⟩], row.text.OneLine := by
  have hclosing : closingLine.OneLine := by decide
  exact List.forall_mem_append.mpr
    ⟨List.forall_mem_cons.mpr ⟨h, hinner⟩, List.forall_mem_singleton.mpr hclosing⟩

end OneLine

mutual

/-- The rows of a statement are lines of their own if its texts are. -/
theorem oneLine_of_mem_rows {depth : Nat} : ∀ {statement : Stmt},
    (∀ t ∈ texts statement, t.OneLine) → ∀ row ∈ rows depth statement, row.text.OneLine
  | .value text, h => List.forall_mem_singleton.mpr (h text List.mem_cons_self)
  | .blank, h => List.forall_mem_singleton.mpr (h [] List.mem_cons_self)
  | .ret text, h => List.forall_mem_singleton.mpr (oneLine_ret (h text List.mem_cons_self))
  | .function name params body, h => by
    obtain ⟨hhead, hbody⟩ := List.forall_mem_append.mp h
    obtain ⟨hname, hparams⟩ := List.forall_mem_cons.mp hhead
    have hattribute : attributeLine.OneLine := by decide
    refine List.forall_mem_cons.mpr ⟨hattribute, ?_⟩
    exact oneLine_body (oneLine_functionHeader hname hparams) (oneLine_of_mem_rowsAll hbody)
  | .ifThen test yes, h => by
    obtain ⟨htest, hyes⟩ := List.forall_mem_cons.mp h
    exact oneLine_body (oneLine_ifHeader htest) (oneLine_of_mem_rowsAll hyes)
  | .ifElse test yes no, h => by
    obtain ⟨hfirst, hno⟩ := List.forall_mem_append.mp h
    obtain ⟨htest, hyes⟩ := List.forall_mem_cons.mp hfirst
    have helse : elseLine.OneLine := by decide
    refine oneLine_body (oneLine_ifHeader htest) (List.forall_mem_append.mpr ⟨?_, ?_⟩)
    · exact oneLine_of_mem_rowsAll hyes
    · exact List.forall_mem_cons.mpr ⟨helse, oneLine_of_mem_rowsAll hno⟩
  | .block bindings body, h => by
    obtain ⟨hbindings, hbody⟩ := List.forall_mem_append.mp h
    have hheader : blockHeader.OneLine := by decide
    refine oneLine_body hheader (List.forall_mem_append.mpr ⟨?_, oneLine_of_mem_rowsAll hbody⟩)
    refine List.forall_mem_map.mpr fun b hb => ?_
    have hpair : ∀ t ∈ [b.1, b.2], t.OneLine := fun t ht =>
      hbindings t (List.mem_flatMap.mpr ⟨b, hb, ht⟩)
    exact oneLine_bindingLine (hpair b.1 (by simp)) (hpair b.2 (by simp))

/-- The rows of statements are lines of their own if the texts of the statements are. -/
theorem oneLine_of_mem_rowsAll {depth : Nat} : ∀ {statements : List Stmt},
    (∀ t ∈ textsAll statements, t.OneLine) → ∀ row ∈ rowsAll depth statements, row.text.OneLine
  | [], _ => List.forall_mem_nil _
  | statement :: rest, h => by
    obtain ⟨hfirst, hrest⟩ := List.forall_mem_append.mp h
    exact List.forall_mem_append.mpr ⟨oneLine_of_mem_rows hfirst, oneLine_of_mem_rowsAll hrest⟩

end

/-- Lines with the spaces of so many blocks in front. -/
def shifted (depth : Nat) (lines : List Text) : List Text :=
  lines.map fun line => Row.spaces depth ++ line

/-- A shifted line is a row. -/
theorem shifted_cons (depth : Nat) (line : Text) (rest : List Text) :
    shifted depth (line :: rest) = Row.line ⟨depth, line⟩ :: shifted depth rest :=
  rfl

/-- Lines are shifted together. -/
theorem shifted_append (depth : Nat) (lines rest : List Text) :
    shifted depth (lines ++ rest) = shifted depth lines ++ shifted depth rest :=
  List.map_append

/-- Indenting lines puts one more block around them. -/
theorem shifted_indent (depth : Nat) (lines : List Text) :
    shifted depth (indent lines) = shifted (depth + 1) lines := by
  rw [shifted, indent, List.map_map]
  exact List.map_congr_left fun line _ => Row.spaces_succ depth line

/-- A text on a line of its own is a single row. -/
theorem shifted_lines {depth : Nat} {t : Text} (h : newline ∉ t) :
    shifted depth t.lines = [Row.line ⟨depth, t⟩] := by
  have hsingle : t.lines = [t] := Text.splitOn_eq_singleton h
  rw [hsingle]
  rfl

/-- Bindings on lines of their own are rows. -/
theorem shifted_bindings {depth : Nat} {bindings : List (Text × Text)}
    (h : ∀ b ∈ bindings, newline ∉ bindingLine b) :
    shifted depth (bindings.flatMap fun b => (bindingLine b).lines) =
      (bindings.map fun b => (⟨depth, bindingLine b⟩ : Row)).map Row.line := by
  induction bindings with
  | nil => rfl
  | cons b rest ih =>
    obtain ⟨hfirst, hrest⟩ := List.forall_mem_cons.mp h
    rw [List.flatMap_cons, shifted_append, shifted_lines hfirst, ih hrest]
    rfl

/-- Lines between the line that opens a body and the one that closes it. -/
theorem shifted_body {depth : Nat} {header : Text} {inner : List Text} {rows : List Row}
    (hheader : newline ∉ header) (hinner : shifted depth inner = rows.map Row.line) :
    shifted depth (header.lines ++ inner ++ [closingLine]) =
      List.map Row.line (⟨depth, header⟩ :: rows ++ [⟨depth, closingLine⟩]) := by
  rw [shifted_append, shifted_append, shifted_lines hheader, hinner, List.map_append, List.map_cons]
  rfl

mutual

/-- The lines of a statement are its rows, if these are lines of their own. -/
theorem shifted_lines_eq_rows {depth : Nat} : ∀ {statement : Stmt},
    (∀ row ∈ rows depth statement, row.text.OneLine) →
      shifted depth (lines statement) = (rows depth statement).map Row.line
  | .value text, h => shifted_lines (h _ List.mem_cons_self).noNewline
  | .blank, _ => rfl
  | .ret text, h => shifted_lines (h _ List.mem_cons_self).noNewline
  | .function name params body, h => by
    obtain ⟨-, hinside⟩ := List.forall_mem_cons.mp h
    obtain ⟨hinside, -⟩ := List.forall_mem_append.mp hinside
    obtain ⟨hheader, hbody⟩ := List.forall_mem_cons.mp hinside
    have hinner := (shifted_indent depth _).trans (shifted_allLines_eq_rows hbody)
    rw [lines, List.cons_append, List.cons_append, shifted_cons, shifted_body hheader.noNewline hinner]
    rfl
  | .ifThen test yes, h => by
    obtain ⟨hinside, -⟩ := List.forall_mem_append.mp h
    obtain ⟨hheader, hyes⟩ := List.forall_mem_cons.mp hinside
    exact shifted_body hheader.noNewline
      ((shifted_indent depth _).trans (shifted_allLines_eq_rows hyes))
  | .ifElse test yes no, h => by
    obtain ⟨hinside, -⟩ := List.forall_mem_append.mp h
    obtain ⟨hfirst, hsecond⟩ := List.forall_mem_append.mp hinside
    obtain ⟨hheader, hyes⟩ := List.forall_mem_cons.mp hfirst
    obtain ⟨-, hno⟩ := List.forall_mem_cons.mp hsecond
    have hinner : shifted depth (indent (allLines yes) ++ elseLine :: indent (allLines no)) =
        (rowsAll (depth + 1) yes ++ ⟨depth, elseLine⟩ :: rowsAll (depth + 1) no).map Row.line := by
      rw [shifted_append, shifted_cons, shifted_indent, shifted_indent, shifted_allLines_eq_rows hyes,
        shifted_allLines_eq_rows hno, List.map_append, List.map_cons]
    rw [lines, List.append_assoc (ifHeader test).lines, shifted_body hheader.noNewline hinner]
    rfl
  | .block bindings body, h => by
    obtain ⟨hinside, -⟩ := List.forall_mem_append.mp h
    obtain ⟨hheader, hinside⟩ := List.forall_mem_cons.mp hinside
    obtain ⟨hbindings, hbody⟩ := List.forall_mem_append.mp hinside
    have hlines : ∀ b ∈ bindings, newline ∉ bindingLine b :=
      fun b hb => (List.forall_mem_map.mp hbindings b hb).noNewline
    refine shifted_body hheader.noNewline ((shifted_indent depth _).trans ?_)
    rw [shifted_append, shifted_bindings hlines, shifted_allLines_eq_rows hbody, List.map_append]

/-- The lines of statements are their rows, if these are lines of their own. -/
theorem shifted_allLines_eq_rows {depth : Nat} : ∀ {statements : List Stmt},
    (∀ row ∈ rowsAll depth statements, row.text.OneLine) →
      shifted depth (allLines statements) = (rowsAll depth statements).map Row.line
  | [], _ => rfl
  | statement :: rest, h => by
    obtain ⟨hfirst, hrest⟩ := List.forall_mem_append.mp h
    rw [allLines, shifted_append, shifted_lines_eq_rows hfirst, shifted_allLines_eq_rows hrest, rowsAll,
      List.map_append]

end

/-- A program whose texts are lines of their own is printed row by row. -/
theorem print_eq_rows {program : List Stmt} (h : ∀ t ∈ textsAll program, t.OneLine) :
    print program = (rowsAll 0 program).flatMap Row.print := by
  have hzero : shifted 0 (allLines program) = allLines program := by
    rw [shifted]
    exact List.map_id _
  have hlines : ∀ row ∈ rowsAll 0 program, row.text.OneLine := oneLine_of_mem_rowsAll h
  rw [print, ← hzero, shifted_allLines_eq_rows hlines, List.flatMap_map]
  rfl

end Stmt

/-- An identifier is a line of its own. -/
theorem IsIdentifier.oneLine {text : Text} (h : IsIdentifier text) : text.OneLine := by
  obtain ⟨name, hname, rfl⟩ := h
  obtain ⟨first, rest, hfirst, -⟩ := Identifier.starts_ofName hname
  have hothers : Identifier.continues newline = false := by decide
  refine ⟨fun hmem => ?_, hfirst ▸ List.cons_ne_nil first rest⟩
  rw [Identifier.continues_of_mem_ofName name newline hmem] at hothers
  cases hothers

/-- A text that is called is on one line, if no target of the library has a newline. -/
theorem newline_not_mem_of_isSourced {lib : Library}
    (htargets : ∀ b ∈ lib.builtins, newline ∉ b.target) {name : Text} {args : List Expr}
    (h : (Expr.call name args).IsSourced lib) : newline ∉ name :=
  Expr.notMem_of_isSourced htargets (by decide) h

/-- Over a library whose targets have no newline, the texts of resolved programs are lines of their
own. -/
theorem inherited_oneLine {lib : Library} (htargets : ∀ b ∈ lib.builtins, newline ∉ b.target) :
    Render.Inherited lib Text.OneLine where
  string := by
    rintro text ⟨⟨body, rfl, -⟩, honLine⟩
    exact ⟨fun hmem => (honLine _ hmem).1 rfl, List.cons_ne_nil _ _⟩
  number := by
    intro text hnumber
    have hword : Leaf.number ≠ .string ∧ Leaf.number.Admits text := ⟨nofun, hnumber⟩
    obtain ⟨hne, hplain, -⟩ := Reader.wordKind_eq_some_iff.mpr hword
    exact ⟨fun hmem => (hplain _ hmem).1.1 rfl, hne⟩
  identifier := fun _ hidentifier => hidentifier.oneLine
  noValue := by decide
  call := by
    intro name args texts text hsourced htexts htext
    have hname : newline ∉ name := newline_not_mem_of_isSourced htargets hsourced
    have hspace : newline ∉ Text.ofString " " := by decide
    have hopening : (Text.ofString "(").OneLine := by decide
    have hclosing : newline ∉ Text.ofString ")" := by decide
    rcases Render.callText_cases htext with rfl | ⟨left, right, rfl, rfl⟩ | rfl
    · have hoperator : newline ∉ " " ++ name ++ " " := by
        simp only [List.mem_append, hspace, hname, or_self, not_false_eq_true]
      have hchain := Text.newline_not_mem_join hoperator fun t ht => (htexts t ht).noNewline
      exact (hopening.append hchain).append hclosing
    · have hleft : left.OneLine := htexts left (by simp)
      have hright : right.OneLine := htexts right (by simp)
      exact (((hleft.append hspace).append hname).append hspace).append hright.noNewline
    · have hjoined : newline ∉ Text.join "," texts :=
        Text.newline_not_mem_join (by decide) fun t ht => (htexts t ht).noNewline
      have hcalled : (name ++ "(").OneLine := by
        refine ⟨?_, List.append_ne_nil_of_right_ne_nil name hopening.ne_nil⟩
        simp only [List.mem_append, hname, hopening.noNewline, or_self, not_false_eq_true]
      exact (hcalled.append hjoined).append hclosing

end SwiftForms
