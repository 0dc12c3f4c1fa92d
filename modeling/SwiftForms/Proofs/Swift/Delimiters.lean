import SwiftForms.Proofs.Compile.Concatenation
import SwiftForms.Proofs.Swift.Rows

/-!
# Delimiters and indentation of written programs

A scan over Swift text keeps the parentheses and braces that are open, innermost first, and passes over
string literals. Main statement: the scan of a compiled program meets every closing delimiter where one
of its kind is open, and at both ends of every line nothing but braces is open. Each line is indented by
four spaces for each of these braces, less four if the line starts with a closing brace.
-/

namespace SwiftForms

/-- The kinds of delimiters. -/
inductive Enclosure where
  /-- Parentheses. -/
  | round
  /-- Braces. -/
  | curly
  deriving DecidableEq, Repr

namespace Enclosure

/-- The delimiter that opens. -/
def opening : Enclosure → Glyph
  | .round => .char '('
  | .curly => .char '\x7b'

/-- The delimiter that closes. -/
def closing : Enclosure → Glyph
  | .round => .char ')'
  | .curly => .char '\x7d'

/-- The delimiters that a glyph opens. -/
def opens? (g : Glyph) : Option Enclosure :=
  if g = opening .round then some .round else if g = opening .curly then some .curly else none

/-- The delimiters that a glyph closes. -/
def closes? (g : Glyph) : Option Enclosure :=
  if g = closing .round then some .round else if g = closing .curly then some .curly else none

end Enclosure

/-- Where a scan over Swift text stands: inside or outside string literals, and with which delimiters
open, innermost first. -/
structure Nesting where
  /-- Inside or outside string literals. -/
  mode : Reader.Mode
  /-- The open delimiters. -/
  opened : List Enclosure
  deriving DecidableEq, Repr

namespace Nesting

/-- A scan passes a glyph. Outside string literals it stops at a closing delimiter if the innermost open
delimiter is not of its kind. -/
def step (s : Nesting) (g : Glyph) : Option Nesting :=
  match s.mode with
  | .escaped => some ⟨.quoted, s.opened⟩
  | .quoted =>
    if g = .char '"' then some ⟨.code, s.opened⟩
    else if g = .char '\\' then some ⟨.escaped, s.opened⟩
    else some s
  | .code =>
    if g = .char '"' then some ⟨.quoted, s.opened⟩
    else
      match Enclosure.opens? g, Enclosure.closes? g with
      | some kind, _ => some ⟨.code, kind :: s.opened⟩
      | none, some kind => if s.opened.head? = some kind then some ⟨.code, s.opened.tail⟩ else none
      | none, none => some s

/-- A scan passes a text. -/
def run : Nesting → Text → Option Nesting
  | s, [] => some s
  | s, g :: rest => (s.step g).bind fun next => next.run rest

/-- A scan passes texts one after another. -/
theorem run_append (s : Nesting) (t u : Text) :
    s.run (t ++ u) = (s.run t).bind fun next => next.run u := by
  induction t generalizing s with
  | nil => rfl
  | cons g rest ih =>
    rw [List.cons_append, run, run, Option.bind_assoc]
    exact Option.bind_congr fun next _ => ih next

/-- Inside so many braces. -/
def inBraces (n : Nat) : Nesting :=
  ⟨.code, List.replicate n .curly⟩

end Nesting

namespace Text

variable {t u : Text} {before middle after : List Enclosure}

/-- A text outside string literals that takes open delimiters `before` to `after`, whatever else is
open. -/
def Turns (before after : List Enclosure) (t : Text) : Prop :=
  ∀ opened, Nesting.run ⟨.code, before ++ opened⟩ t = some ⟨.code, after ++ opened⟩

/-- A text that closes what it opens, and nothing else. -/
def Steady (t : Text) : Prop :=
  Turns [] [] t

/-- Texts one after another. -/
theorem Turns.append (h : Turns before middle t) (hu : Turns middle after u) :
    Turns before after (t ++ u) := by
  intro opened
  rw [Nesting.run_append, h opened]
  exact hu opened

/-- A steady text leaves open what is open. -/
theorem Steady.turns (h : Steady t) (kinds : List Enclosure) : Turns kinds kinds t :=
  fun opened => h (kinds ++ opened)

/-- Steady texts one after another. -/
theorem Steady.append (h : Steady t) (hu : Steady u) : Steady (t ++ u) :=
  Turns.append h hu

/-- Steady texts with a steady separator. -/
theorem Steady.join {separator : Text} {parts : List Text} (hseparator : Steady separator)
    (hparts : ∀ t ∈ parts, Steady t) : Steady (join separator parts) := by
  induction parts with
  | nil => exact fun _ => rfl
  | cons t rest ih =>
    obtain ⟨hfirst, hrest⟩ := List.forall_mem_cons.mp hparts
    cases rest with
    | nil => exact hfirst
    | cons u others => exact (hfirst.append hseparator).append (ih hrest)

/-- A text between parentheses. -/
theorem Steady.parenthesized (h : Steady t) : Steady ("(" ++ t ++ ")") := by
  have hopening : Turns [] [.round] "(" := fun _ => rfl
  have hclosing : Turns [.round] [] ")" := fun _ => rfl
  exact (hopening.append (h.turns _)).append hclosing

end Text

/-- The glyphs that a scan outside string literals heeds. -/
def Nesting.delimiters : Text :=
  "\"()\x7b\x7d"

/-- A scan outside string literals passes any other glyph. -/
theorem Nesting.step_of_not_mem {g : Glyph} (h : g ∉ delimiters) (opened : List Enclosure) :
    step ⟨.code, opened⟩ g = some ⟨.code, opened⟩ := by
  have hne : ∀ other ∈ delimiters, g ≠ other := fun other hother =>
    (ne_of_mem_of_not_mem hother h).symm
  have hopens : Enclosure.opens? g = none := by
    rw [Enclosure.opens?, if_neg (hne _ (by decide)), if_neg (hne _ (by decide))]
  have hcloses : Enclosure.closes? g = none := by
    rw [Enclosure.closes?, if_neg (hne _ (by decide)), if_neg (hne _ (by decide))]
  simp only [step, if_neg (hne (.char '"') (by decide)), hopens, hcloses]

/-- A scan inside a string literal leaves it where the literal ends. -/
theorem Nesting.run_quoted {body : Text} (h : Reader.Quoted body) (opened : List Enclosure) :
    run ⟨.quoted, opened⟩ body = some ⟨.code, opened⟩ := by
  induction h with
  | close => rfl
  | escape g _ ih => exact ih
  | glyph noQuote noEscape _ ih =>
    simp only [run, step, if_neg noQuote, if_neg noEscape, Option.bind_some]
    exact ih

/-- A glyph that divides words is one of four. -/
theorem Glyph.mem_of_isSpace {g : Glyph} (h : g.isSpace = true) : g ∈ Text.ofString " \n\t\r" := by
  have hrole : g.role = .space := of_decide_eq_true h
  unfold role at hrole
  split at hrole
  · decide
  · decide
  · decide
  · decide
  all_goals cases hrole

namespace Text

/-- A text that closes what it opens, and does not start with a space. -/
structure Neat (t : Text) : Prop where
  /-- It closes what it opens. -/
  steady : Steady t
  /-- Its first glyph is no space. -/
  start : ∃ g, t.head? = some g ∧ g.isSpace = false

variable {t u : Text}

/-- What follows does not change how a text starts. -/
theorem Neat.start_append (h : Neat t) (u : Text) :
    ∃ g, (t ++ u).head? = some g ∧ g.isSpace = false := by
  obtain ⟨g, hg, hspace⟩ := h.start
  refine ⟨g, ?_, hspace⟩
  rw [List.head?_append, hg]
  rfl

/-- A steady text may follow. -/
theorem Neat.append (h : Neat t) (hu : Steady u) : Neat (t ++ u) :=
  ⟨h.steady.append hu, h.start_append u⟩

/-- A text of glyphs that delimit nothing is steady. -/
theorem steady_of_forall (h : ∀ g ∈ t, g ∉ Nesting.delimiters) : Steady t := by
  induction t with
  | nil => exact fun _ => rfl
  | cons g rest ih =>
    obtain ⟨hg, hrest⟩ := List.forall_mem_cons.mp h
    intro opened
    rw [Nesting.run, Nesting.step_of_not_mem hg]
    exact ih hrest opened

/-- A word is neat. -/
theorem neat_of_word (hne : t ≠ []) (h : ∀ g ∈ t, g ∉ Nesting.delimiters ∧ g.isSpace = false) :
    Neat t := by
  refine ⟨steady_of_forall fun g hg => (h g hg).1, ?_⟩
  cases t with
  | nil => exact absurd rfl hne
  | cons g rest => exact ⟨g, rfl, (h g List.mem_cons_self).2⟩

end Text

/-- An identifier is neat. -/
theorem IsIdentifier.neat {text : Text} (h : IsIdentifier text) : text.Neat := by
  have hdelimiters : ∀ g ∈ Nesting.delimiters, Identifier.continues g = false := by decide
  have hspaces : ∀ g ∈ Text.ofString " \n\t\r", Identifier.continues g = false := by decide
  refine Text.neat_of_word h.oneLine.ne_nil fun g hg => ?_
  obtain ⟨name, -, rfl⟩ := h
  have hcontinues := Identifier.continues_of_mem_ofName name g hg
  constructor
  · intro hmem
    rw [hdelimiters g hmem] at hcontinues
    cases hcontinues
  · by_contra hspace
    rw [hspaces g (Glyph.mem_of_isSpace (Bool.not_eq_false _ ▸ hspace))] at hcontinues
    cases hcontinues

/-- What a program over the standard library calls is neat. -/
theorem neat_of_isSourced {name : Text} {args : List Expr}
    (h : (Expr.call name args).IsSourced .standard) : name.Neat := by
  have htargets : ∀ b ∈ Library.standardBuiltins,
      b.target ≠ [] ∧ ∀ g ∈ b.target, g ∉ Nesting.delimiters ∧ g.isSpace = false := by
    decide
  rcases h with ⟨b, hb, rfl, -⟩ | hidentifier
  · exact Text.neat_of_word (htargets b hb).1 (htargets b hb).2
  · exact hidentifier.neat

/-- The texts of resolved programs over the standard library are neat. -/
theorem inherited_neat : Render.Inherited .standard Text.Neat where
  string := by
    rintro text ⟨⟨body, rfl, hbody⟩, -⟩
    exact ⟨fun opened => Nesting.run_quoted hbody opened, _, rfl, by decide⟩
  number := by
    intro text hnumber
    have hword : Leaf.number ≠ .string ∧ Leaf.number.Admits text := ⟨nofun, hnumber⟩
    have halphabet : ∀ g ∈ Pattern.alphabet Numeral.pattern,
        g ∉ Nesting.delimiters ∧ g.isSpace = false := by
      decide
    refine Text.neat_of_word (Reader.wordKind_eq_some_iff.mpr hword).1 fun g hg => ?_
    exact halphabet g (Pattern.mem_alphabet_of_mem hnumber.1 g hg)
  identifier := fun _ hidentifier => hidentifier.neat
  noValue := Text.neat_of_word (by decide) (by decide)
  call := by
    intro name args texts text hsourced htexts htext
    have hname : name.Neat := neat_of_isSourced hsourced
    have hspace : Text.Steady " " := fun _ => rfl
    have hsteady : ∀ t ∈ texts, t.Steady := fun t ht => (htexts t ht).steady
    rcases Render.callText_cases htext with rfl | ⟨left, right, rfl, rfl⟩ | rfl
    · have hoperator : Text.Steady (" " ++ name ++ " ") := (hspace.append hname.steady).append hspace
      exact ⟨(hoperator.join hsteady).parenthesized, _, rfl, by decide⟩
    · have hleft : left.Neat := htexts left (by simp)
      have hright : right.Neat := htexts right (by simp)
      exact (((hleft.append hspace).append hname.steady).append hspace).append hright.steady
    · have hcomma : Text.Steady "," := fun _ => rfl
      have hcall := hname.append (hcomma.join hsteady).parenthesized
      rwa [← List.append_assoc, ← List.append_assoc] at hcall

namespace Row

/-- A row takes a scan from `n` open braces to `m`, and has the depth of the open braces, less one if it
starts with a closing brace. -/
structure Leads (row : Row) (n m : Nat) : Prop where
  /-- The scan of the row. -/
  run : (Nesting.inBraces n).run row.text = some (Nesting.inBraces m)
  /-- How it starts. -/
  start : ∃ g, row.text.head? = some g ∧ g.isSpace = false ∧
    row.depth = if g = Enclosure.curly.closing then n - 1 else n

/-- A row that closes nothing has the depth of the open braces. -/
theorem leads_of_turns {text : Text} {count : Nat} (n : Nat)
    (hturns : Text.Turns [] (List.replicate count .curly) text)
    (hstart : ∃ g, text.head? = some g ∧ g.isSpace = false) : Leads ⟨n, text⟩ n (n + count) := by
  obtain ⟨g, hg, hspace⟩ := hstart
  -- A closing brace in front would close one that is open before the row.
  have hclosing : g ≠ Enclosure.curly.closing := by
    rintro rfl
    obtain ⟨rest, rfl⟩ : ∃ rest, text = Enclosure.curly.closing :: rest :=
      ⟨text.tail, (List.cons_head?_tail hg).symm⟩
    cases hturns []
  refine ⟨?_, g, hg, hspace, (if_neg hclosing).symm⟩
  rw [Nesting.inBraces, Nesting.inBraces, Nat.add_comm n count, ← List.replicate_append_replicate]
  exact hturns _

/-- A neat text as a row. -/
theorem leads_of_neat {text : Text} (n : Nat) (h : text.Neat) : Leads ⟨n, text⟩ n n := by
  have hturns : Text.Turns [] (List.replicate 0 .curly) text := h.steady
  exact leads_of_turns n hturns h.start

/-- The line that closes a body. -/
theorem leads_closingLine (n : Nat) : Leads ⟨n, Stmt.closingLine⟩ (n + 1) n :=
  ⟨rfl, _, rfl, by decide, rfl⟩

/-- The line between the branches of a conditional. -/
theorem leads_elseLine (n : Nat) : Leads ⟨n, Stmt.elseLine⟩ (n + 1) (n + 1) :=
  ⟨rfl, _, rfl, by decide, rfl⟩

/-- The line that opens a block. -/
theorem leads_blockHeader (n : Nat) : Leads ⟨n, Stmt.blockHeader⟩ n (n + 1) :=
  leads_of_turns n (fun _ => rfl) ⟨_, rfl, by decide⟩

/-- The line that opens a conditional. -/
theorem leads_ifHeader {test : Text} (n : Nat) (h : test.Neat) :
    Leads ⟨n, Stmt.ifHeader test⟩ n (n + 1) := by
  have hopening : Text.Turns [] [.round, .round] "if (truthy(" := fun _ => rfl
  have hclosing : Text.Turns [.round, .round] [.curly] ")) \x7b" := fun _ => rfl
  exact leads_of_turns n ((hopening.append (h.steady.turns _)).append hclosing) ⟨_, rfl, by decide⟩

/-- A parameter is steady if its name is neat. -/
theorem steady_param {name : Text} (h : name.Neat) : (Stmt.param name).Steady := by
  have hstart : Text.Steady "_ " := fun _ => rfl
  have htype : Text.Steady ": " := fun _ => rfl
  have hvalue : Stmt.valueType.Steady := fun _ => rfl
  exact ((hstart.append h.steady).append htype).append hvalue

/-- The line that opens a function. -/
theorem leads_functionHeader {name : Text} {params : List Text} (n : Nat) (h : name.Neat)
    (hparams : ∀ p ∈ params, p.Neat) : Leads ⟨n, Stmt.functionHeader name params⟩ n (n + 1) := by
  have hstart : Text.Steady "func " := fun _ => rfl
  have hopening : Text.Turns [] [.round] "(" := fun _ => rfl
  have hcomma : Text.Steady ", " := fun _ => rfl
  have hjoined : Text.Steady (Text.join ", " (params.map Stmt.param)) :=
    hcomma.join (List.forall_mem_map.mpr fun p hp => steady_param (hparams p hp))
  have hclosing : Text.Turns [.round] [] ") -> " := fun _ => rfl
  have hvalue : Stmt.valueType.Steady := fun _ => rfl
  have hbrace : Text.Turns [] [.curly] " \x7b" := fun _ => rfl
  have hopened := ((hstart.append h.steady).turns []).append hopening
  have hclosed := (hopened.append (hjoined.turns _)).append hclosing
  exact leads_of_turns n ((hclosed.append (hvalue.turns _)).append hbrace) ⟨_, rfl, by decide⟩

/-- The line that binds a variable. -/
theorem leads_bindingLine {name value : Text} (n : Nat) (h : name.Neat) (hvalue : value.Neat) :
    Leads ⟨n, Stmt.bindingLine (name, value)⟩ n n := by
  have hstart : Text.Neat "let " := ⟨fun _ => rfl, _, rfl, by decide⟩
  have htype : Text.Steady ": " := fun _ => rfl
  have hvalueType : Stmt.valueType.Steady := fun _ => rfl
  have hequals : Text.Steady " = " := fun _ => rfl
  have hnamed := ((hstart.append h.steady).append htype).append hvalueType
  exact leads_of_neat n ((hnamed.append hequals).append hvalue.steady)

/-- The line that returns a value. -/
theorem leads_ret {value : Text} (n : Nat) (h : value.Neat) : Leads ⟨n, "return " ++ value⟩ n n := by
  have hstart : Text.Neat "return " := ⟨fun _ => rfl, _, rfl, by decide⟩
  exact leads_of_neat n (hstart.append h.steady)

/-- Rows one after another take a scan from `n` open braces to `m`. -/
inductive LeadAll : Nat → List Row → Nat → Prop
  /-- No rows. -/
  | nil (n : Nat) : LeadAll n [] n
  /-- One row after another. -/
  | cons {n k m : Nat} {row : Row} {rest : List Row} (first : row.Leads n k) (later : LeadAll k rest m) :
    LeadAll n (row :: rest) m

/-- The spaces in front of a row open and close nothing. -/
theorem steady_spaces (depth : Nat) : (spaces depth).Steady := by
  have hspace : Glyph.char ' ' ∉ Nesting.delimiters := by decide
  exact Text.steady_of_forall fun g hg => List.eq_of_mem_replicate hg ▸ hspace

/-- The scan of a row with its spaces. -/
theorem Leads.run_line {row : Row} {n m : Nat} (h : row.Leads n m) :
    (Nesting.inBraces n).run row.line = some (Nesting.inBraces m) := by
  have hspaces : (Nesting.inBraces n).run (spaces row.depth) = some (Nesting.inBraces n) :=
    steady_spaces row.depth _
  rw [line, Nesting.run_append, hspaces]
  exact h.run

namespace LeadAll

variable {n k m : Nat} {row : Row} {rows rest : List Row}

/-- The scan of printed rows. -/
theorem run (h : LeadAll n rows m) :
    (Nesting.inBraces n).run (rows.flatMap print) = some (Nesting.inBraces m) := by
  induction h with
  | nil => rfl
  | @cons n k m row rest first _ ih =>
    have hnewline : (Nesting.inBraces k).run [newline] = some (Nesting.inBraces k) := rfl
    rw [List.flatMap_cons, print, Nesting.run_append, Nesting.run_append, first.run_line,
      Option.bind_some, hnewline]
    exact ih

/-- Rows in front of rows. -/
theorem append (h : LeadAll n rows k) (hrest : LeadAll k rest m) : LeadAll n (rows ++ rest) m := by
  induction h with
  | nil => exact hrest
  | cons first _ ih => exact .cons first (ih hrest)

/-- A single row. -/
theorem singleton (h : row.Leads n m) : LeadAll n [row] m :=
  .cons h (.nil m)

/-- Rows can be parted. -/
theorem of_append (h : LeadAll n (rows ++ rest) m) : ∃ k, LeadAll n rows k ∧ LeadAll k rest m := by
  induction rows generalizing n with
  | nil => exact ⟨n, .nil n, h⟩
  | cons row others ih =>
    cases h with
    | cons first later =>
      obtain ⟨k, hothers, hrest⟩ := ih later
      exact ⟨k, .cons first hothers, hrest⟩

/-- Rows between a row that opens a brace and one that closes it. -/
theorem body {opener : Row} (hopener : opener.Leads n (n + 1)) (h : LeadAll (n + 1) rows (n + 1)) :
    LeadAll n (opener :: rows ++ [⟨n, Stmt.closingLine⟩]) n :=
  (cons hopener h).append (singleton (leads_closingLine n))

end LeadAll

end Row

namespace Stmt

open Row

/-- The rows of bindings leave open what is open. -/
theorem leadAll_bindings {n : Nat} {bindings : List (Text × Text)}
    (h : ∀ t ∈ bindings.flatMap (fun b => [b.1, b.2]), t.Neat) :
    LeadAll n (bindings.map fun b => ⟨n, bindingLine b⟩) n := by
  induction bindings with
  | nil => exact .nil n
  | cons b rest ih =>
    obtain ⟨hname, hothers⟩ := List.forall_mem_cons.mp h
    obtain ⟨hvalue, hrest⟩ := List.forall_mem_cons.mp hothers
    exact .cons (leads_bindingLine n hname hvalue) (ih hrest)

mutual

/-- The rows of a statement leave open what is open. -/
theorem leadAll_rows {n : Nat} : ∀ {statement : Stmt}, (∀ t ∈ texts statement, t.Neat) →
    LeadAll n (rows n statement) n
  | .value text, h => .singleton (leads_of_neat n (h text List.mem_cons_self))
  | .blank, h => .singleton (leads_of_neat n (h [] List.mem_cons_self))
  | .ret text, h => .singleton (leads_ret n (h text List.mem_cons_self))
  | .function name params body, h => by
    obtain ⟨hhead, hbody⟩ := List.forall_mem_append.mp h
    obtain ⟨hname, hparams⟩ := List.forall_mem_cons.mp hhead
    have hattribute : attributeLine.Neat := ⟨fun _ => rfl, _, rfl, by decide⟩
    exact .cons (leads_of_neat n hattribute)
      (.body (leads_functionHeader n hname hparams) (leadAll_rowsAll hbody))
  | .ifThen test yes, h => by
    obtain ⟨htest, hyes⟩ := List.forall_mem_cons.mp h
    exact .body (leads_ifHeader n htest) (leadAll_rowsAll hyes)
  | .ifElse test yes no, h => by
    obtain ⟨hfirst, hno⟩ := List.forall_mem_append.mp h
    obtain ⟨htest, hyes⟩ := List.forall_mem_cons.mp hfirst
    have hbranches :
        LeadAll (n + 1) (rowsAll (n + 1) yes ++ ⟨n, elseLine⟩ :: rowsAll (n + 1) no) (n + 1) :=
      (leadAll_rowsAll hyes).append (.cons (leads_elseLine n) (leadAll_rowsAll hno))
    exact .body (leads_ifHeader n htest) hbranches
  | .block bindings body, h => by
    obtain ⟨hbindings, hbody⟩ := List.forall_mem_append.mp h
    exact .body (leads_blockHeader n) ((leadAll_bindings hbindings).append (leadAll_rowsAll hbody))

/-- The rows of statements leave open what is open. -/
theorem leadAll_rowsAll {n : Nat} : ∀ {statements : List Stmt}, (∀ t ∈ textsAll statements, t.Neat) →
    LeadAll n (rowsAll n statements) n
  | [], _ => .nil n
  | statement :: rest, h => by
    obtain ⟨hfirst, hrest⟩ := List.forall_mem_append.mp h
    exact (leadAll_rows hfirst).append (leadAll_rowsAll hrest)

end

end Stmt

/-- In a program that is compiled over the standard library, every closing delimiter outside of string
literals closes one of its own kind, and all are closed in the end. The text is empty or ends in a
newline. At both ends of every line nothing but braces is open, so its parentheses close within it. It
starts with four spaces for each brace that is open in front of it, one less if it starts with a closing
brace, and then a glyph that is no space. -/
theorem compileBody_delimited {source output : Text}
    (h : compileBody .standard source = .ok output) :
    (Nesting.inBraces 0).run output = some (Nesting.inBraces 0) ∧
      (output = [] ∨ output.getLast? = some newline) ∧
      ∀ before line, output.HasLine before line →
        ∃ n m g rest, (Nesting.inBraces 0).run before = some (Nesting.inBraces n) ∧
          (Nesting.inBraces n).run line = some (Nesting.inBraces m) ∧
          line = List.replicate (4 * if g = Enclosure.curly.closing then n - 1 else n) (.char ' ') ++
            g :: rest ∧
          g.isSpace = false := by
  obtain ⟨⟨swift, next⟩, hcompile, hpair⟩ := Fallible.bind_eq_ok.mp h
  cases hpair
  obtain ⟨forms, exprs, hread, hresolve, hrender⟩ := compileUnder_eq_ok.mp hcompile
  obtain ⟨program, hprogram, hprint⟩ := Fallible.bind_eq_ok.mp hrender
  cases hprint
  have hsourced := allSourced_of_resolve .library hread hresolve
  have hwrites := Render.writes_allStatements hprogram
  have htargets : ∀ b ∈ Library.standardBuiltins, newline ∉ b.target := by decide
  have hlines : ∀ t ∈ Stmt.textsAll program, t.OneLine :=
    (inherited_oneLine htargets).written hwrites hsourced
  have hleads : Row.LeadAll 0 (Stmt.rowsAll 0 program) 0 :=
    Stmt.leadAll_rowsAll (inherited_neat.written hwrites hsourced)
  rw [Stmt.print_eq_rows hlines]
  refine ⟨hleads.run, Row.getLast?_flatMap_print _, fun before line hline => ?_⟩
  obtain ⟨earlier, row, later, hrows, rfl, rfl⟩ :=
    Row.exists_of_hasLine (fun row hrow => (Stmt.oneLine_of_mem_rowsAll hlines row hrow).noNewline) hline
  rw [hrows] at hleads
  obtain ⟨n, hearlier, hlater⟩ := hleads.of_append
  cases hlater with
  | @cons _ m _ _ _ hrow _ =>
    obtain ⟨g, hg, hspace, hdepth⟩ := hrow.start
    refine ⟨n, m, g, row.text.tail, hearlier.run, hrow.run_line, ?_, hspace⟩
    rw [List.cons_head?_tail hg, ← hdepth]
    rfl

/-- A binding around a conditional that prints a string with delimiters in it. -/
def delimited : Text :=
  "(let [x 2] (if x (print \"\x7d\\\"(\") (do)))"

/-- The forms of that program. -/
def delimitedForms : List Form :=
  [.group .round
    [.leaf .atom "let" ⟨1, 1, 2⟩,
      .group .square [.leaf .atom "x" ⟨6, 1, 7⟩, .leaf .number "2" ⟨8, 1, 9⟩] ⟨5, 1, 6⟩,
      .group .round
        [.leaf .atom "if" ⟨12, 1, 13⟩, .leaf .atom "x" ⟨15, 1, 16⟩,
          .group .round
            [.leaf .atom "print" ⟨18, 1, 19⟩, .leaf .string "\"\x7d\\\"(\"" ⟨24, 1, 25⟩] ⟨17, 1, 18⟩,
          .group .round [.leaf .atom "do" ⟨33, 1, 34⟩] ⟨32, 1, 33⟩] ⟨11, 1, 12⟩] ⟨0, 1, 1⟩]

/-- The expressions of that program. -/
def delimitedExprs : List Expr :=
  [.bind [("x", .number "2")]
    [.ifElse (.symbol "x") (.call "print" [.string "\"\x7d\\\"(\""]) (.sequence [])]]

/-- The text of that program through the first branch. -/
def delimitedFront : Text :=
  "do \x7b\n    let x: Value = 2\n    if (truthy(x)) \x7b\n        print(\"\x7d\\\"(\")\n"

/-- The line between the branches. -/
def delimitedElse : Text :=
  "    \x7d else \x7b"

/-- The text of that program. -/
def delimitedText : Text :=
  delimitedFront ++ delimitedElse ++ newline :: "    \x7d\n\x7d\n"

/-- The delimiters in the string do not count, and the line between the branches is indented like the
conditional. -/
theorem delimited_elseLine :
    compileBody .standard delimited = .ok delimitedText ∧
      (Nesting.inBraces 0).run delimitedText = some (Nesting.inBraces 0) ∧
      delimitedText.HasLine delimitedFront delimitedElse ∧
      ∃ n m g rest, (Nesting.inBraces 0).run delimitedFront = some (Nesting.inBraces n) ∧
        (Nesting.inBraces n).run delimitedElse = some (Nesting.inBraces m) ∧
        delimitedElse =
          List.replicate (4 * if g = Enclosure.curly.closing then n - 1 else n) (.char ' ') ++ g :: rest ∧
        g.isSpace = false := by
  have hread : read delimited = .ok delimitedForms := by
    with_unfolding_all rfl
  have hresolve : ∃ next, resolve (.ofLibrary .standard) delimitedForms = .ok (delimitedExprs, next) :=
    ⟨_, rfl⟩
  have hrender : render .standard delimitedExprs = .ok delimitedText := by
    with_unfolding_all rfl
  obtain ⟨next, hnext⟩ := hresolve
  have hcompile : compileBody .standard delimited = .ok delimitedText :=
    Fallible.bind_eq_ok.mpr
      ⟨_, compileUnder_eq_ok.mpr ⟨delimitedForms, delimitedExprs, hread, hnext, hrender⟩, rfl⟩
  have hline : delimitedText.HasLine delimitedFront delimitedElse := ⟨by decide, .inr rfl, _, rfl⟩
  obtain ⟨hbalanced, -, hlines⟩ := compileBody_delimited hcompile
  exact ⟨hcompile, hbalanced, hline, hlines _ _ hline⟩

end SwiftForms
