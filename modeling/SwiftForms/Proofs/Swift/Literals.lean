import SwiftForms.Proofs.Resolve.Strings
import SwiftForms.Proofs.Swift.Delimiters
import SwiftForms.Proofs.Swift.Returns

/-!
# String literals of written programs

String literals are cut out of a text from left to right, each from a quote through the next quote that
no backslash takes with it. A text carries the literals that it adds to those of whatever follows it.
Main statement: the literals of a compiled program are the string literals of its source, in order.
Quotes come into a program with its strings alone, for identifiers, numbers, operators and the words of
Swift have none.
-/

namespace SwiftForms

open Reader

/-- The glyph that opens and closes string literals. -/
def quote : Glyph :=
  .char '"'

namespace Text

/-- The string literals of a text, from left to right, if all of them are closed. -/
def literals? (t : Text) : Option (List Text) :=
  match t with
  | [] => some []
  | g :: rest =>
    if g = quote then
      match _hclose : closeString rest with
      | none => none
      | some (body, after) => (literals? after).map ((g :: body) :: ·)
    else literals? rest
  termination_by t.length
  decreasing_by
    · have happend := congrArg List.length (append_of_closeString _hclose)
      simp only [List.length_append, List.length_cons] at happend ⊢
      omega
    · simp

/-- The string literals of a text, and none if one of them is not closed. -/
def literals (t : Text) : List Text :=
  (literals? t).getD []

/-- A text puts these literals in front of those of any text that follows. -/
def Carries (t : Text) (found : List Text) : Prop :=
  ∀ rest, literals? (t ++ rest) = (literals? rest).map (found ++ ·)

variable {t u : Text} {found more : List Text}

/-- What a text carries are its literals. -/
theorem Carries.literals?_eq (h : Carries t found) : t.literals? = some found := by
  have hend := h []
  rwa [List.append_nil, literals?, Option.map_some, List.append_nil] at hend

/-- A text that carries literals has no others. -/
theorem Carries.literals_eq (h : Carries t found) : t.literals = found := by
  rw [literals, h.literals?_eq, Option.getD_some]

/-- Texts one after another carry the literals of both. -/
theorem Carries.append (h : Carries t found) (hu : Carries u more) :
    Carries (t ++ u) (found ++ more) := by
  intro rest
  have hprefix : ((found ++ ·) ∘ (more ++ ·) : List Text → List Text) = (found ++ more ++ ·) := by
    funext others
    exact (List.append_assoc found more others).symm
  rw [List.append_assoc, h, hu, Option.map_map, hprefix]

/-- A text without quotes carries nothing. -/
theorem carries_nil (h : quote ∉ t) : Carries t [] := by
  intro rest
  have hsame : ((([] : List Text) ++ ·) : List Text → List Text) = id := rfl
  rw [hsame, Option.map_id, id]
  induction t with
  | nil => rfl
  | cons g others ih =>
    obtain ⟨hg, hothers⟩ := not_or.mp (List.mem_cons.not.mp h)
    rw [List.cons_append, literals?, if_neg (Ne.symm hg), ih hothers]

/-- A string literal carries itself. -/
theorem carries_string {body : Text} (h : Quoted body) : Carries (quote :: body) [quote :: body] := by
  intro rest
  rw [List.cons_append, literals?, if_pos rfl]
  split
  · rename_i hclose
    rw [closeString_of_quoted h] at hclose
    cases hclose
  · rename_i inner after hclose
    rw [closeString_of_quoted h] at hclose
    cases hclose
    rfl

/-- A text without quotes in front changes nothing. -/
theorem Carries.after_plain (hu : Carries u more) (h : quote ∉ t) : Carries (t ++ u) more :=
  (carries_nil h).append hu

/-- A text without quotes behind changes nothing. -/
theorem Carries.append_plain (h : Carries t found) (hu : quote ∉ u) : Carries (t ++ u) found := by
  have hboth := h.append (carries_nil hu)
  rwa [List.append_nil] at hboth

/-- Texts that are joined by a text without quotes carry the literals of all of them. -/
theorem carries_join {α : Type} {separator : Text} (hseparator : quote ∉ separator)
    (write : α → Text) {found : α → List Text} {items : List α}
    (h : ∀ item ∈ items, Carries (write item) (found item)) :
    Carries (join separator (items.map write)) (items.flatMap found) := by
  induction items with
  | nil => exact carries_nil List.not_mem_nil
  | cons item rest ih =>
    obtain ⟨hitem, hrest⟩ := List.forall_mem_cons.mp h
    cases rest with
    | nil =>
      rw [List.flatMap_cons, List.flatMap_nil, List.append_nil]
      exact hitem
    | cons next others => exact (hitem.append_plain hseparator).append (ih hrest)

/-- A text whose literals all end inside it. -/
def Whole (t : Text) : Prop :=
  Carries t t.literals

/-- A text that carries literals is whole. -/
theorem Carries.whole (h : Carries t found) : t.Whole := by
  rw [Whole, h.literals_eq]
  exact h

/-- The literals of texts one after another. -/
theorem carries_join_whole {separator : Text} {parts : List Text} (hseparator : quote ∉ separator)
    (h : ∀ t ∈ parts, t.Whole) : Carries (join separator parts) (parts.flatMap literals) := by
  have hjoin := carries_join hseparator id h
  rwa [List.map_id] at hjoin

end Text

/-- An identifier has no quotes. -/
theorem IsIdentifier.quote_notMem {text : Text} (h : IsIdentifier text) : quote ∉ text :=
  h.notMem (by decide)

/-- What a program over the standard library calls has no quotes. -/
theorem quote_notMem_of_isSourced {name : Text} {args : List Expr}
    (h : (Expr.call name args).IsSourced .standard) : quote ∉ name := by
  have htargets : ∀ b ∈ Library.standardBuiltins, quote ∉ b.target := by decide
  exact Expr.notMem_of_isSourced htargets (by decide) h

namespace Render

/-- A call carries the literals of its arguments. -/
theorem carries_callText {lib : Library} {name text : Text} {args : List Expr} {texts : List Text}
    (hname : quote ∉ name) (htexts : ∀ t ∈ texts, t.Whole)
    (h : callText lib name args texts = .ok text) : text.Carries (texts.flatMap Text.literals) := by
  have hspace : quote ∉ Text.ofString " " := by decide
  have hopening : quote ∉ Text.ofString "(" := by decide
  have hclosing : quote ∉ Text.ofString ")" := by decide
  rcases callText_cases h with rfl | ⟨left, right, rfl, rfl⟩ | rfl
  · have hoperator : quote ∉ " " ++ name ++ " " := by
      simp only [List.mem_append, hspace, hname, or_self, not_false_eq_true]
    have hchain := Text.carries_join_whole hoperator htexts
    exact (hchain.after_plain hopening).append_plain hclosing
  · obtain ⟨hleft, hright⟩ := List.forall_mem_cons.mp htexts
    have hfirst := ((hleft.append_plain hspace).append_plain hname).append_plain hspace
    have hboth := hfirst.append (hright right List.mem_cons_self)
    rwa [List.flatMap_cons, List.flatMap_cons, List.flatMap_nil, List.append_nil]
  · have hcomma : quote ∉ Text.ofString "," := by decide
    have hcalled : quote ∉ name ++ "(" := by
      simp only [List.mem_append, hname, hopening, or_self, not_false_eq_true]
    exact ((Text.carries_join_whole hcomma htexts).after_plain hcalled).append_plain hclosing

/-- The text of a string that a source spells carries itself. -/
theorem carries_of_admits {text : Text} (h : Leaf.Admits .string text) : text.Carries [text] := by
  obtain ⟨⟨body, rfl, hbody⟩, -⟩ := h
  exact Text.carries_string hbody

/-- A number has no quotes. -/
theorem quote_notMem_number {text : Text} (h : Leaf.Admits .number text) : quote ∉ text :=
  Leaf.notMem_of_number h (by decide)

/-- The texts of resolved programs over the standard library are whole. -/
theorem inherited_whole : Inherited .standard Text.Whole where
  string := fun _ hstring => (carries_of_admits hstring).whole
  number := fun _ hnumber => (Text.carries_nil (quote_notMem_number hnumber)).whole
  identifier := fun _ hidentifier => (Text.carries_nil hidentifier.quote_notMem).whole
  noValue := (Text.carries_nil (by decide)).whole
  call := fun _ _ _ _ hsourced htexts htext =>
    (carries_callText (quote_notMem_of_isSourced hsourced) htexts htext).whole

end Render

/-- The literals of the texts that statements are made of. -/
def Stmt.literals (lines : List Stmt) : List Text :=
  (textsAll lines).flatMap Text.literals

/-- The literals of statements one after another are those of the parts. -/
theorem Stmt.literals_append (lines rest : List Stmt) :
    literals (lines ++ rest) = literals lines ++ literals rest := by
  rw [literals, textsAll_append, List.flatMap_append]
  rfl

/-- The first statement has its literals in front of the others. -/
theorem Stmt.literals_cons (statement : Stmt) (rest : List Stmt) :
    literals (statement :: rest) = (texts statement).flatMap Text.literals ++ literals rest := by
  rw [literals, textsAll, List.flatMap_append]
  rfl

/-- What closes statements has no literals. -/
theorem Stmt.literals_close (lines : List Stmt) (ending : Ending) :
    literals (lines ++ ending.closing) = literals lines := by
  cases ending with
  | passing => rw [Ending.closing, List.append_nil]
  | returning =>
    have hnone : Render.noValue.literals = [] := (Text.carries_nil (by decide)).literals_eq
    have hlast : literals [.ret Render.noValue] = [] := by
      rw [literals, textsAll_singleton, texts, List.flatMap_singleton, hnone]
    rw [Ending.closing, literals_append, hlast, List.append_nil]

namespace Render

open Fallible

/-- An identifier has no literals. -/
theorem literals_of_isIdentifier {text : Text} (h : IsIdentifier text) : text.literals = [] :=
  (Text.carries_nil h.quote_notMem).literals_eq

mutual

/-- The literals of a value are the strings of the expression. -/
theorem literals_value : ∀ {e : Expr} {text : Text}, e.AllSourced .standard →
    value .standard e = .ok text → text.literals = e.strings
  | .string _, _, hs, h => by
    cases h
    exact (carries_of_admits (hs _ .here)).literals_eq
  | .number _, _, hs, h => by
    cases h
    exact (Text.carries_nil (quote_notMem_number (hs _ .here))).literals_eq
  | .symbol _, _, hs, h => by
    cases h
    exact literals_of_isIdentifier (hs _ .here)
  | .call name args, text, hs, h => by
    rw [value] at h
    obtain ⟨texts, htexts, htext⟩ := bind_eq_ok.mp h
    have hargs : ∀ e ∈ args, e.AllSourced .standard := fun e he => hs.part he
    have hcall := carries_callText (quote_notMem_of_isSourced (hs _ .here))
      (inherited_whole.values hargs htexts) htext
    rw [hcall.literals_eq, literals_values hargs htexts]
    rfl

/-- The literals of values are the strings of the expressions. -/
theorem literals_values : ∀ {exprs : List Expr} {texts : List Text},
    (∀ e ∈ exprs, e.AllSourced .standard) → values .standard exprs = .ok texts →
      texts.flatMap Text.literals = stringsAll exprs
  | [], _, _, h => by
    cases h
    rfl
  | e :: rest, _, hs, h => by
    rw [values] at h
    obtain ⟨text, htext, h⟩ := bind_eq_ok.mp h
    obtain ⟨others, hothers, h⟩ := bind_eq_ok.mp h
    cases h
    obtain ⟨hfirst, hrest⟩ := List.forall_mem_cons.mp hs
    rw [List.flatMap_cons, literals_value hfirst htext, literals_values hrest hothers]
    rfl

end

/-- The literals of bindings are the strings of the bound values. -/
theorem literals_bindings {bound : List (Text × Expr)} {lines : List (Text × Text)}
    (hnames : ∀ b ∈ bound, IsIdentifier b.1) (hs : ∀ b ∈ bound, b.2.AllSourced .standard)
    (h : bindings .standard bound = .ok lines) :
    (lines.flatMap fun b => [b.1, b.2]).flatMap Text.literals = boundStrings bound := by
  induction bound generalizing lines with
  | nil =>
    cases h
    rfl
  | cons b rest ih =>
    rw [bindings] at h
    obtain ⟨text, htext, h⟩ := bind_eq_ok.mp h
    obtain ⟨others, hothers, h⟩ := bind_eq_ok.mp h
    cases h
    obtain ⟨hname, hnames⟩ := List.forall_mem_cons.mp hnames
    obtain ⟨hvalue, hrest⟩ := List.forall_mem_cons.mp hs
    rw [List.flatMap_cons, List.flatMap_append, List.flatMap_cons, List.flatMap_singleton,
      literals_of_isIdentifier hname, literals_value hvalue htext, ih hnames hrest hothers]
    rfl

/-- The literals of a value that stands as a statement. -/
theorem literals_valueStatement (text : Text) : Stmt.literals (valueStatement text) = text.literals := by
  unfold valueStatement
  split
  · next hempty =>
    rw [List.isEmpty_iff.mp hempty, (Text.carries_nil List.not_mem_nil).literals_eq]
    rfl
  · rw [Stmt.literals, Stmt.textsAll_singleton, Stmt.texts, List.flatMap_singleton]

/-- The literals of a block are the strings of its bindings and of its body. -/
theorem literals_block {bound : List (Text × Expr)} {body : List Expr}
    {lines : List (Text × Text)} {inner : List Stmt}
    (hs : (Expr.bind bound body).AllSourced .standard) (hbound : bindings .standard bound = .ok lines)
    (hbody : Stmt.literals inner = stringsAll body) :
    Stmt.literals [.block lines inner] = (Expr.bind bound body).strings := by
  have hvalues : ∀ b ∈ bound, b.2.AllSourced .standard := fun b hb =>
    hs.part (List.mem_append_left body (List.mem_map_of_mem hb))
  have hlines := literals_bindings (hs _ .here) hvalues hbound
  rw [Stmt.literals, Stmt.textsAll_singleton, Stmt.texts, List.flatMap_append, hlines]
  exact congrArg (boundStrings bound ++ ·) hbody

/-- The literals of a function are the strings of its body. -/
theorem literals_function {name : Text} {params : List Text} {body : List Expr} {inner : List Stmt}
    (hs : (Expr.define name params body).AllSourced .standard)
    (hbody : Stmt.literals inner = stringsAll body) :
    Stmt.literals [.function name params inner] = (Expr.define name params body).strings := by
  obtain ⟨hname, hparams⟩ : (Expr.define name params body).IsSourced .standard := hs _ .here
  have hnone : params.flatMap Text.literals = [] :=
    List.flatMap_eq_nil_iff.mpr fun param hparam => literals_of_isIdentifier (hparams param hparam)
  rw [Stmt.literals, Stmt.textsAll_singleton, Stmt.texts, List.flatMap_append, List.flatMap_cons,
    literals_of_isIdentifier hname, hnone]
  exact hbody

/-- The literals of a conditional with one branch are those of its test and of the branch. -/
theorem literals_ifThen (test : Text) (yes : List Stmt) :
    Stmt.literals [.ifThen test yes] = test.literals ++ Stmt.literals yes := by
  rw [Stmt.literals, Stmt.textsAll_singleton, Stmt.texts, List.flatMap_cons]
  rfl

/-- The literals of a conditional with two branches are those of its test and of both branches. -/
theorem literals_ifElse (test : Text) (yes no : List Stmt) :
    Stmt.literals [.ifElse test yes no] =
      test.literals ++ Stmt.literals yes ++ Stmt.literals no := by
  rw [Stmt.literals, Stmt.textsAll_singleton, Stmt.texts, List.flatMap_append, List.flatMap_cons]
  rfl

/-- The literals of written statements are the strings of the expressions. -/
theorem Writes.literals_eq {ending : Ending} {exprs : List Expr} {lines : List Stmt}
    (h : Writes .standard ending exprs lines) (hs : ∀ e ∈ exprs, e.AllSourced .standard) :
    Stmt.literals lines = stringsAll exprs := by
  induction h with
  | nil ending => exact Stmt.literals_close [] ending
  | cons _ _ ihFirst ihOthers =>
    obtain ⟨hfirst, hothers⟩ := List.forall_mem_cons.mp hs
    rw [Stmt.literals_append, ihFirst (List.forall_mem_singleton.mpr hfirst), ihOthers hothers,
      stringsAll_singleton]
    rfl
  | @define ending name params _ lines _ ih =>
    have hs := List.forall_mem_singleton.mp hs
    rw [stringsAll_singleton, ← literals_function hs (ih fun e he => hs.part he)]
    exact Stmt.literals_close [.function name params lines] ending
  | external _ _ _ => rfl
  | externalReturn _ _ _ => exact (List.forall_mem_singleton.mp hs _ .here).elim
  | @ifThen ending _ yes testText lines htest _ ih =>
    obtain ⟨hsTest, hsYes⟩ := (List.forall_mem_singleton.mp hs).ifThen
    have hyes := ih (List.forall_mem_singleton.mpr hsYes)
    refine (Stmt.literals_close [.ifThen testText lines] ending).trans ?_
    rw [literals_ifThen, literals_value hsTest htest, hyes, stringsAll_singleton, stringsAll_singleton]
    rfl
  | ifElse htest _ _ ihYes ihNo =>
    obtain ⟨hsTest, hsYes, hsNo⟩ := (List.forall_mem_singleton.mp hs).ifElse
    have hyes := ihYes (List.forall_mem_singleton.mpr hsYes)
    have hno := ihNo (List.forall_mem_singleton.mpr hsNo)
    rw [literals_ifElse, literals_value hsTest htest, hyes, hno, stringsAll_singleton,
      stringsAll_singleton, stringsAll_singleton]
    rfl
  | bind hbound _ ih =>
    have hs := List.forall_mem_singleton.mp hs
    rw [stringsAll_singleton]
    exact literals_block hs hbound (ih fun e he => hs.part (List.mem_append_right _ he))
  | sequence _ ih =>
    rw [stringsAll_singleton]
    exact ih fun e he => (List.forall_mem_singleton.mp hs).part he
  | value htext =>
    rw [literals_valueStatement, literals_value (List.forall_mem_singleton.mp hs) htext,
      stringsAll_singleton]
  | ret htext =>
    rw [Stmt.literals, Stmt.textsAll_singleton, Stmt.texts, List.flatMap_singleton,
      literals_value (List.forall_mem_singleton.mp hs) htext, stringsAll_singleton]

end Render

namespace Row

/-- The spaces in front of a row have no quotes. -/
theorem quote_notMem_spaces (depth : Nat) : quote ∉ spaces depth := by
  intro hmem
  have hspace : quote = .char ' ' := List.eq_of_mem_replicate hmem
  exact absurd hspace (by decide)

/-- Printed rows carry literals. -/
def CarryAll (rows : List Row) (found : List Text) : Prop :=
  Text.Carries (rows.flatMap print) found

variable {depth : Nat} {row : Row} {rows rest : List Row} {found more : List Text}

/-- A printed row carries what its text carries. -/
theorem carryAll_singleton (h : row.text.Carries found) : CarryAll [row] found := by
  rw [CarryAll, List.flatMap_singleton]
  exact (h.after_plain (quote_notMem_spaces row.depth)).append_plain (by decide)

/-- Rows in front of rows. -/
theorem CarryAll.append (h : CarryAll rows found) (hrest : CarryAll rest more) :
    CarryAll (rows ++ rest) (found ++ more) := by
  rw [CarryAll, List.flatMap_append]
  exact Text.Carries.append h hrest

/-- A row in front of rows. -/
theorem CarryAll.cons (h : row.text.Carries found) (hrest : CarryAll rest more) :
    CarryAll (row :: rest) (found ++ more) :=
  (carryAll_singleton h).append hrest

/-- Rows between a row that opens a body and the one that closes it. -/
theorem CarryAll.body {opener : Row} (hopener : opener.text.Carries found) (h : CarryAll rows more) :
    CarryAll (opener :: rows ++ [⟨depth, Stmt.closingLine⟩]) (found ++ more) := by
  have hclosing : Stmt.closingLine.Carries [] := Text.carries_nil (by decide)
  have hlast : CarryAll [⟨depth, Stmt.closingLine⟩] [] := carryAll_singleton hclosing
  have hwhole := (CarryAll.cons hopener h).append hlast
  rwa [List.append_nil] at hwhole

end Row

namespace Stmt

open Row

/-- The line that opens a conditional carries what its test carries. -/
theorem carries_ifHeader {test : Text} (h : test.Whole) : (ifHeader test).Carries test.literals :=
  (h.after_plain (by decide)).append_plain (by decide)

/-- A return carries what its value carries. -/
theorem carries_ret {text : Text} (h : text.Whole) :
    (Text.ofString "return " ++ text).Carries text.literals :=
  h.after_plain (by decide)

/-- The line that opens a function carries what its identifiers carry. -/
theorem carries_functionHeader {name : Text} {params : List Text} (h : name.Whole)
    (hparams : ∀ p ∈ params, p.Whole) :
    (functionHeader name params).Carries (name.literals ++ params.flatMap Text.literals) := by
  have hparam : ∀ p ∈ params, (param p).Carries p.literals := by
    intro p hp
    have hnamed := (hparams p hp).after_plain (t := "_ ") (by decide)
    exact (hnamed.append_plain (u := ": ") (by decide)).append_plain (by decide)
  have hcomma : quote ∉ Text.ofString ", " := by decide
  have hjoined := Text.carries_join hcomma param hparam
  have hopened := (h.after_plain (t := "func ") (by decide)).append_plain (u := "(") (by decide)
  have hclosed := (hopened.append hjoined).append_plain (u := ") -> ") (by decide)
  exact (hclosed.append_plain (u := valueType) (by decide)).append_plain (by decide)

/-- The line that binds a variable carries what the variable and its value carry. -/
theorem carries_bindingLine {name value : Text} (h : name.Whole) (hvalue : value.Whole) :
    (bindingLine (name, value)).Carries (name.literals ++ value.literals) := by
  have hnamed := (h.after_plain (t := "let ") (by decide)).append_plain (u := ": ") (by decide)
  have htyped := hnamed.append_plain (u := valueType) (by decide)
  exact (htyped.append_plain (u := " = ") (by decide)).append hvalue

/-- The rows of bindings carry the literals of their texts. -/
theorem carryAll_bindings {depth : Nat} {bindings : List (Text × Text)}
    (h : ∀ t ∈ bindings.flatMap (fun b => [b.1, b.2]), t.Whole) :
    CarryAll (bindings.map fun b => ⟨depth, bindingLine b⟩)
      ((bindings.flatMap fun b => [b.1, b.2]).flatMap Text.literals) := by
  induction bindings with
  | nil => exact Text.carries_nil List.not_mem_nil
  | cons b rest ih =>
    obtain ⟨hname, hothers⟩ := List.forall_mem_cons.mp h
    obtain ⟨hvalue, hrest⟩ := List.forall_mem_cons.mp hothers
    have hfirst : CarryAll [⟨depth, bindingLine b⟩] (b.1.literals ++ b.2.literals) :=
      carryAll_singleton (carries_bindingLine hname hvalue)
    have hall := hfirst.append (ih hrest)
    rwa [List.append_assoc] at hall

mutual

/-- The rows of a statement carry the literals of its texts. -/
theorem carryAll_rows {depth : Nat} : ∀ {statement : Stmt}, (∀ t ∈ texts statement, t.Whole) →
    CarryAll (rows depth statement) ((texts statement).flatMap Text.literals)
  | .value text, h => by
    rw [texts, List.flatMap_singleton]
    exact carryAll_singleton (h text List.mem_cons_self)
  | .blank, h => by
    rw [texts, List.flatMap_singleton]
    exact carryAll_singleton (h [] List.mem_cons_self)
  | .ret text, h => by
    rw [texts, List.flatMap_singleton]
    exact carryAll_singleton (carries_ret (h text List.mem_cons_self))
  | .function name params body, h => by
    obtain ⟨hhead, hbody⟩ := List.forall_mem_append.mp h
    obtain ⟨hname, hparams⟩ := List.forall_mem_cons.mp hhead
    have hattribute : attributeLine.Carries [] := Text.carries_nil (by decide)
    have hrows : CarryAll (rows depth (.function name params body))
        ([] ++ (name.literals ++ params.flatMap Text.literals ++ literals body)) :=
      .cons hattribute (.body (carries_functionHeader hname hparams) (carryAll_rowsAll hbody))
    rwa [texts, List.flatMap_append, List.flatMap_cons]
  | .ifThen test yes, h => by
    obtain ⟨htest, hyes⟩ := List.forall_mem_cons.mp h
    rw [texts, List.flatMap_cons]
    exact .body (carries_ifHeader htest) (carryAll_rowsAll hyes)
  | .ifElse test yes no, h => by
    obtain ⟨hfirst, hno⟩ := List.forall_mem_append.mp h
    obtain ⟨htest, hyes⟩ := List.forall_mem_cons.mp hfirst
    have helse : elseLine.Carries [] := Text.carries_nil (by decide)
    have hbranches :
        CarryAll (rowsAll (depth + 1) yes ++ ⟨depth, elseLine⟩ :: rowsAll (depth + 1) no)
          (literals yes ++ ([] ++ literals no)) :=
      (carryAll_rowsAll hyes).append (.cons helse (carryAll_rowsAll hno))
    rw [texts, List.flatMap_append, List.flatMap_cons, List.append_assoc]
    exact .body (carries_ifHeader htest) hbranches
  | .block bindings body, h => by
    obtain ⟨hbindings, hbody⟩ := List.forall_mem_append.mp h
    have hheader : blockHeader.Carries [] := Text.carries_nil (by decide)
    have hrows : CarryAll (rows depth (.block bindings body))
        ([] ++ ((bindings.flatMap fun b => [b.1, b.2]).flatMap Text.literals ++ literals body)) :=
      .body hheader ((carryAll_bindings hbindings).append (carryAll_rowsAll hbody))
    rwa [texts, List.flatMap_append]

/-- The rows of statements carry the literals of their texts. -/
theorem carryAll_rowsAll {depth : Nat} : ∀ {statements : List Stmt},
    (∀ t ∈ textsAll statements, t.Whole) → CarryAll (rowsAll depth statements) (literals statements)
  | [], _ => Text.carries_nil List.not_mem_nil
  | statement :: rest, h => by
    obtain ⟨hfirst, hrest⟩ := List.forall_mem_append.mp h
    rw [literals_cons]
    exact (carryAll_rows hfirst).append (carryAll_rowsAll hrest)

end

end Stmt

/-- The string literals of a program that is compiled over the standard library are the string literals
of its source, each once and in the same order. -/
theorem compileBody_literals {source output : Text} (h : compileBody .standard source = .ok output) :
    ∃ forms, read source = .ok forms ∧ output.literals? = some (Form.strings forms) := by
  obtain ⟨⟨swift, next⟩, hcompile, hpair⟩ := Fallible.bind_eq_ok.mp h
  cases hpair
  obtain ⟨forms, exprs, hread, hresolve, hrender⟩ := compileUnder_eq_ok.mp hcompile
  obtain ⟨program, hprogram, hprint⟩ := Fallible.bind_eq_ok.mp hrender
  cases hprint
  have hsourced := allSourced_of_resolve .library hread hresolve
  have hwrites := Render.writes_allStatements hprogram
  have htargets : ∀ b ∈ Library.standardBuiltins, newline ∉ b.target := by decide
  have hlines : ∀ t ∈ Stmt.textsAll program, t.OneLine :=
    (inherited_oneLine htargets).written hwrites hsourced
  have hwhole : ∀ t ∈ Stmt.textsAll program, t.Whole :=
    Render.inherited_whole.written hwrites hsourced
  have hcarries : Row.CarryAll (Stmt.rowsAll 0 program) (Stmt.literals program) :=
    Stmt.carryAll_rowsAll hwhole
  have hstrings : Stmt.literals program = Form.strings forms := by
    rw [hwrites.literals_eq hsourced]
    exact (Resolve.sequence_derivation hresolve).strings.symm
  refine ⟨forms, hread, ?_⟩
  rw [Stmt.print_eq_rows hlines, ← hstrings]
  exact Text.Carries.literals?_eq hcarries

/-- A binding of a string over two lines, with a bracket and a quote in it, around a conditional with a
string in each branch. -/
def speaking : Text :=
  "(let [x \"(\n\\\"\"] (if x (print \"]\") \"\"))"

/-- The forms of that program. -/
def speakingForms : List Form :=
  [.group .round
    [.leaf .atom "let" ⟨1, 1, 2⟩,
      .group .square [.leaf .atom "x" ⟨6, 1, 7⟩, .leaf .string "\"( \\\"\"" ⟨8, 1, 9⟩] ⟨5, 1, 6⟩,
      .group .round
        [.leaf .atom "if" ⟨17, 2, 7⟩, .leaf .atom "x" ⟨20, 2, 10⟩,
          .group .round [.leaf .atom "print" ⟨23, 2, 13⟩, .leaf .string "\"]\"" ⟨29, 2, 19⟩] ⟨22, 2, 12⟩,
          .leaf .string "\"\"" ⟨34, 2, 24⟩] ⟨16, 2, 6⟩] ⟨0, 1, 1⟩]

/-- The expressions of that program. -/
def speakingExprs : List Expr :=
  [.bind [("x", .string "\"( \\\"\"")]
    [.ifElse (.symbol "x") (.call "print" [.string "\"]\""]) (.string "\"\"")]]

/-- The text of that program. -/
def speakingText : Text :=
  "do \x7b\n    let x: Value = \"( \\\"\"\n    if (truthy(x)) \x7b\n        print(\"]\")\n" ++
    "    \x7d else \x7b\n        \"\"\n    \x7d\n\x7d\n"

/-- The strings of that program are found in its text, in the order of the source. -/
theorem speaking_literals :
    compileBody .standard speaking = .ok speakingText ∧
      speakingText.literals? = some (["\"( \\\"\"", "\"]\"", "\"\""].map Text.ofString) := by
  have hread : read speaking = .ok speakingForms := by
    with_unfolding_all rfl
  have hresolve : ∃ next, resolve (.ofLibrary .standard) speakingForms = .ok (speakingExprs, next) :=
    ⟨_, rfl⟩
  have hrender : render .standard speakingExprs = .ok speakingText := by
    with_unfolding_all rfl
  obtain ⟨next, hnext⟩ := hresolve
  have hcompile : compileBody .standard speaking = .ok speakingText :=
    Fallible.bind_eq_ok.mpr
      ⟨_, compileUnder_eq_ok.mpr ⟨speakingForms, speakingExprs, hread, hnext, hrender⟩, rfl⟩
  obtain ⟨forms, hforms, hliterals⟩ := compileBody_literals hcompile
  have hsame : forms = speakingForms := Except.ok.inj (hforms.symm.trans hread)
  rw [hsame] at hliterals
  exact ⟨hcompile, hliterals⟩

end SwiftForms
