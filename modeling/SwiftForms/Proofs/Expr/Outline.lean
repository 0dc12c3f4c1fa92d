import SwiftForms.Proofs.Compile.Concatenation
import SwiftForms.Proofs.Compiler.Cached
import SwiftForms.Proofs.Swift.Rows

/-!
# Outlines can be read back

The outline of an expression starts with a label that tells its kind, and goes on with its words and
the outlines of its parts. Words end where a delimiter stands that they do not have, strings end where
their grammar ends them, and lists go on after a comma and end at a bracket. Main statement: no outline
of an expression from a source is the start of another, so the outlines of a source tell its
expressions, whatever delimiters stand in its strings. Each outline takes a line of its own.
-/

namespace SwiftForms

namespace Expr

/-- The kinds that outlines tell. -/
inductive Kind where
  /-- A string literal. -/
  | string
  /-- A number literal. -/
  | number
  /-- A variable. -/
  | symbol
  /-- A call. -/
  | call
  /-- A conditional with one branch or two. -/
  | conditional
  /-- A binding. -/
  | bind
  /-- A sequence. -/
  | sequence
  /-- A vector. -/
  | vector
  /-- A declaration. -/
  | define
  deriving DecidableEq

/-- What the outlines of a kind start with. -/
def Kind.label : Kind → Text
  | .string => "String("
  | .number => "Number("
  | .symbol => "Symbol("
  | .call => "FunctionCall\x7b"
  | .conditional => "Conditional\x7b"
  | .bind => "LetBinding\x7b"
  | .sequence => "Sequence"
  | .vector => "VectorLiteral"
  | .define => "FunctionDeclaration\x7b"

/-- The kind of an expression that a source can stand for. -/
def kind? : Expr → Option Kind
  | .string _ => some .string
  | .number _ => some .number
  | .symbol _ => some .symbol
  | .call _ _ => some .call
  | .ifThen _ _ => some .conditional
  | .ifElse _ _ _ => some .conditional
  | .bind _ _ => some .bind
  | .sequence _ => some .sequence
  | .vector _ => some .vector
  | .define _ _ _ => some .define
  | _ => none

/-- All kinds. -/
def Kind.all : List Kind :=
  [.string, .number, .symbol, .call, .conditional, .bind, .sequence, .vector, .define]

/-- Every kind is among them. -/
theorem Kind.mem_all (kind : Kind) : kind ∈ all := by
  cases kind <;> decide

/-- No label starts another. -/
theorem Kind.eq_of_label_prefix {a b : Kind} (h : a.label <+: b.label) : a = b := by
  have hlabels : ∀ a ∈ all, ∀ b ∈ all, a.label <+: b.label → a = b := by decide +kernel
  exact hlabels a a.mem_all b b.mem_all h

variable {e f : Expr} {rest more : Text}

/-- An outline starts with the label of its kind. -/
theorem exists_label (h : e.IsSourced .standard) :
    ∃ kind, e.kind? = some kind ∧ kind.label <+: e.outline := by
  cases e with
  | external name params native => exact h.elim
  | missing => exact h.elim
  | foreign inner => exact h.elim
  | _ =>
    refine ⟨_, rfl, ?_⟩
    simp only [outline, Kind.label, List.append_assoc]
    exact List.prefix_append _ _

/-- Outlines with texts after them tell the kind. -/
theorem kind?_eq (he : e.IsSourced .standard) (hf : f.IsSourced .standard)
    (h : e.outline ++ rest = f.outline ++ more) : e.kind? = f.kind? := by
  obtain ⟨a, ha, hlabel⟩ := exists_label he
  obtain ⟨b, hb, hlabel'⟩ := exists_label hf
  have hfirst : a.label <+: f.outline ++ more := h ▸ hlabel.trans (List.prefix_append _ _)
  have hsecond : b.label <+: f.outline ++ more := hlabel'.trans (List.prefix_append _ _)
  rw [ha, hb]
  rcases List.prefix_or_prefix_of_prefix hfirst hsecond with hab | hba
  · rw [Kind.eq_of_label_prefix hab]
  · rw [Kind.eq_of_label_prefix hba]

end Expr

/-- Two strings with texts after them are the same if all of it is. -/
theorem Reader.Quoted.append_inj {body other rest more : Text} (h : Quoted body) (hother : Quoted other)
    (heq : body ++ rest = other ++ more) : body = other ∧ rest = more := by
  have hclose := congrArg closeString heq
  rw [closeString_of_quoted h, closeString_of_quoted hother] at hclose
  exact Prod.mk.inj (Option.some.inj hclose)

section Lists

variable {α : Type} {write : α → Text}

/-- What stands after the first item of a list: the closing bracket, or a comma and the other items. -/
def listEnd (write : α → Text) (items : List α) (rest : Text) : Text :=
  match items with
  | [] => .char ']' :: rest
  | item :: others => .char ',' :: (Text.join "," ((item :: others).map write) ++ "]" ++ rest)

/-- A list starts with its first item. -/
theorem join_append_bracket (item : α) (items : List α) (rest : Text) :
    Text.join "," ((item :: items).map write) ++ "]" ++ rest =
      write item ++ listEnd write items rest := by
  cases items with
  | nil => exact List.append_assoc _ _ _
  | cons next others =>
    have hjoin : Text.join "," ((item :: next :: others).map write) =
        write item ++ "," ++ Text.join "," ((next :: others).map write) := rfl
    rw [hjoin, List.append_assoc, List.append_assoc, List.append_assoc, listEnd, List.append_assoc]
    rfl

/-- The glyphs that follow an item. -/
def itemEnds : Text :=
  ",]"

/-- After an item stands a glyph that follows items. -/
theorem exists_listEnd (write : α → Text) (items : List α) (rest : Text) :
    ∃ g ∈ itemEnds, ∃ later, listEnd write items rest = g :: later := by
  cases items with
  | nil => exact ⟨.char ']', by decide, rest, rfl⟩
  | cons item others => exact ⟨.char ',', by decide, _, rfl⟩

/-- Items `x` and `y` that are written the same, as far as an item goes, are the same. -/
def Told (write : α → Text) (x y : α) : Prop :=
  ∀ g ∈ itemEnds, ∀ h ∈ itemEnds, ∀ rest more, write x ++ g :: rest = write y ++ h :: more →
    x = y ∧ g :: rest = h :: more

/-- The text of an item does not start with a closing bracket, and is not empty. -/
def Begun (write : α → Text) (x : α) : Prop :=
  ∃ g later, write x = g :: later ∧ g ≠ .char ']'

/-- A closing bracket starts no item. -/
theorem Begun.ne_bracket {x : α} (h : Begun write x) (rest more : Text) :
    Text.ofString "]" ++ rest ≠ write x ++ more := by
  obtain ⟨g, later, hx, hg⟩ := h
  intro heq
  rw [hx, List.cons_append] at heq
  exact hg (List.cons.inj heq).1.symm

/-- Lists in brackets are told item by item. -/
theorem bracketed_inj {items others : List α} {rest more : Text}
    (hitems : ∀ x ∈ items, Begun write x) (hothers : ∀ y ∈ others, Begun write y)
    (htold : ∀ x ∈ items, ∀ y ∈ others, Told write x y)
    (h : bracketed (items.map write) ++ rest = bracketed (others.map write) ++ more) :
    items = others ∧ rest = more := by
  simp only [bracketed, List.append_assoc] at h
  have hinner := List.append_cancel_left h
  rw [← List.append_assoc, ← List.append_assoc (Text.join "," (others.map write))] at hinner
  clear h
  induction items generalizing others with
  | nil =>
    cases others with
    | nil => exact ⟨rfl, List.append_cancel_left hinner⟩
    | cons y ys =>
      rw [join_append_bracket] at hinner
      exact absurd hinner ((hothers y List.mem_cons_self).ne_bracket rest _)
  | cons x xs ih =>
    obtain ⟨hx, hxs⟩ := List.forall_mem_cons.mp hitems
    cases others with
    | nil =>
      rw [join_append_bracket] at hinner
      exact absurd hinner.symm (hx.ne_bracket more _)
    | cons y ys =>
      obtain ⟨g, hg, later, hend⟩ := exists_listEnd write xs rest
      obtain ⟨g', hg', later', hend'⟩ := exists_listEnd write ys more
      rw [join_append_bracket, join_append_bracket, hend, hend'] at hinner
      obtain ⟨rfl, hlater⟩ := htold x List.mem_cons_self y List.mem_cons_self g hg g' hg' _ _ hinner
      rw [← hend, ← hend'] at hlater
      cases xs with
      | nil =>
        cases ys with
        | nil => exact ⟨rfl, (List.cons.inj hlater).2⟩
        | cons z zs => exact absurd (List.cons.inj hlater).1 (by decide)
      | cons w ws =>
        cases ys with
        | nil => exact absurd (List.cons.inj hlater).1 (by decide)
        | cons z zs =>
          have hrest := ih hxs (List.forall_mem_cons.mp hothers).2
            (fun a ha b hb => htold a (List.mem_cons_of_mem x ha) b (List.mem_cons_of_mem x hb))
            (List.cons.inj hlater).2
          exact ⟨congrArg (x :: ·) hrest.1, hrest.2⟩

end Lists

/-- The outlines of expressions, one by one. -/
theorem outlines_eq_map (exprs : List Expr) : outlines exprs = exprs.map Expr.outline := by
  induction exprs with
  | nil => rfl
  | cons e rest ih => rw [outlines, ih, List.map_cons]

/-- The outline of a binding. -/
def bindingOutline (b : Text × Expr) : Text :=
  b.1 ++ "=" ++ b.2.outline

/-- The outlines of bindings, one by one. -/
theorem bindingOutlines_eq_map (bound : List (Text × Expr)) :
    bindingOutlines bound = bound.map bindingOutline := by
  induction bound with
  | nil => rfl
  | cons b rest ih =>
    rw [bindingOutlines, ih, List.map_cons]
    rfl

namespace IsIdentifier

variable {text other rest more : Text}

/-- The glyphs of an identifier are those that identifiers are made of. -/
theorem continues_of_mem (h : IsIdentifier text) : ∀ g ∈ text, Identifier.continues g = true := by
  obtain ⟨name, -, rfl⟩ := h
  exact Identifier.continues_of_mem_ofName name

/-- Identifiers in a list can be told apart. -/
theorem told (h : IsIdentifier text) (hother : IsIdentifier other) : Told id text other := by
  have hends : ∀ g ∈ itemEnds, Identifier.continues g = false := by decide
  intro g hg g' hg' rest more heq
  exact Text.append_inj_of_stops h.continues_of_mem (Text.stops_cons (hends g hg) rest)
    hother.continues_of_mem (Text.stops_cons (hends g' hg') more) heq

/-- An identifier starts with no closing bracket. -/
theorem begun (h : IsIdentifier text) : ∃ g later, text = g :: later ∧ g ≠ .char ']' := by
  cases text with
  | nil => exact absurd rfl h.oneLine.ne_nil
  | cons g later =>
    have hbracket : Identifier.continues (.char ']') = false := by decide
    exact ⟨g, later, rfl, fun hg => h.notMem hbracket (hg ▸ List.mem_cons_self)⟩

end IsIdentifier

namespace Expr

variable {e f : Expr} {rest more : Text}

/-- No outline of an expression from a source starts or extends the outline of this one. -/
def Legible (e : Expr) : Prop :=
  ∀ f rest more, f.AllSourced .standard → e.outline ++ rest = f.outline ++ more → e = f ∧ rest = more

/-- Expressions in a list can be told apart. -/
theorem Legible.told (h : e.Legible) (hf : f.AllSourced .standard) : Told outline e f := by
  intro g _ g' _ rest more heq
  exact h f (g :: rest) (g' :: more) hf heq

/-- An outline starts with no closing bracket. -/
theorem begun_outline (h : e.IsSourced .standard) : Begun outline e := by
  have hlabel : ∀ kind : Kind, ∃ g later, kind.label = g :: later ∧ g ≠ .char ']' := by
    intro kind
    cases kind <;> exact ⟨_, _, rfl, by decide⟩
  obtain ⟨kind, -, content, houtline⟩ := exists_label h
  obtain ⟨g, later, hkind, hg⟩ := hlabel kind
  exact ⟨g, later ++ content, by rw [← houtline, hkind, List.cons_append], hg⟩

/-- Lists of legible expressions can be told apart. -/
theorem outlines_inj {exprs others : List Expr} (hlegible : ∀ e ∈ exprs, e.Legible)
    (hexprs : ∀ e ∈ exprs, e.AllSourced .standard) (hothers : ∀ f ∈ others, f.AllSourced .standard)
    (h : bracketed (outlines exprs) ++ rest = bracketed (outlines others) ++ more) :
    exprs = others ∧ rest = more := by
  rw [outlines_eq_map, outlines_eq_map] at h
  refine bracketed_inj (fun e he => ?_) (fun f hf => ?_) (fun e he f hf => ?_) h
  · exact begun_outline (hexprs e he _ .here)
  · exact begun_outline (hothers f hf _ .here)
  · exact (hlegible e he).told (hothers f hf)

/-- Lists of identifiers can be told apart. -/
theorem names_inj {names others : List Text} (hnames : ∀ name ∈ names, IsIdentifier name)
    (hothers : ∀ name ∈ others, IsIdentifier name)
    (h : bracketed names ++ rest = bracketed others ++ more) : names = others ∧ rest = more := by
  rw [← List.map_id names, ← List.map_id others] at h
  refine bracketed_inj (fun t ht => ?_) (fun u hu => ?_) (fun t ht u hu => ?_) h
  · exact (hnames t ht).begun
  · exact (hothers u hu).begun
  · exact (hnames t ht).told (hothers u hu)

/-- A binding of an identifier starts with no closing bracket. -/
theorem begun_bindingOutline {b : Text × Expr} (h : IsIdentifier b.1) : Begun bindingOutline b := by
  obtain ⟨g, later, hname, hg⟩ := h.begun
  exact ⟨g, _, by rw [bindingOutline, hname, List.append_assoc, List.cons_append], hg⟩

/-- Bindings of identifiers to legible expressions can be told apart. -/
theorem told_bindingOutline {b c : Text × Expr} (hb : IsIdentifier b.1) (hc : IsIdentifier c.1)
    (hlegible : b.2.Legible) (hsourced : c.2.AllSourced .standard) : Told bindingOutline b c := by
  have hequals : Identifier.continues (.char '=') = false := by decide
  intro g _ g' _ rest more heq
  simp only [bindingOutline, List.append_assoc] at heq
  obtain ⟨hname, hvalue⟩ := Text.append_cons_inj (hb.notMem hequals) (hc.notMem hequals) heq
  obtain ⟨hexpr, hrest⟩ := hlegible c.2 (g :: rest) (g' :: more) hsourced hvalue
  exact ⟨Prod.ext hname hexpr, hrest⟩

/-- Lists of such bindings can be told apart. -/
theorem bindingOutlines_inj {bound others : List (Text × Expr)}
    (hbound : ∀ b ∈ bound, IsIdentifier b.1 ∧ b.2.Legible)
    (hothers : ∀ c ∈ others, IsIdentifier c.1 ∧ c.2.AllSourced .standard)
    (h : bracketed (bindingOutlines bound) ++ rest = bracketed (bindingOutlines others) ++ more) :
    bound = others ∧ rest = more := by
  rw [bindingOutlines_eq_map, bindingOutlines_eq_map] at h
  refine bracketed_inj (fun b hb => ?_) (fun c hc => ?_) (fun b hb c hc => ?_) h
  · exact begun_bindingOutline (hbound b hb).1
  · exact begun_bindingOutline (hothers c hc).1
  · exact told_bindingOutline (hbound b hb).1 (hothers c hc).1 (hbound b hb).2 (hothers c hc).2

/-- What a program over the standard library calls has no comma. -/
theorem comma_notMem {name : Text} {args : List Expr} (h : (call name args).IsSourced .standard) :
    Glyph.char ',' ∉ name := by
  have htargets : ∀ b ∈ Library.standardBuiltins, Glyph.char ',' ∉ b.target := by decide
  exact notMem_of_isSourced htargets (by decide) h

/-- A number has no parenthesis. -/
theorem parenthesis_notMem {text : Text} (h : Leaf.Admits .number text) : Glyph.char ')' ∉ text :=
  Leaf.notMem_of_number h (by decide)

/-- Strings are legible. -/
theorem legible_string {text : Text} (hs : (string text).IsSourced .standard) :
    (string text).Legible := by
  intro f rest more hf heq
  have hkind := kind?_eq hs (hf _ .here) heq
  cases f with
  | string other =>
    obtain ⟨⟨body, rfl, hbody⟩, -⟩ := hs
    obtain ⟨⟨tail, rfl, htail⟩, -⟩ : Leaf.Admits .string other := hf _ .here
    simp only [outline, List.append_assoc] at heq
    have hbodies := (List.cons.inj (List.append_cancel_left heq)).2
    obtain ⟨hsame, hrest⟩ := hbody.append_inj htail hbodies
    exact ⟨by rw [hsame], List.append_cancel_left hrest⟩
  | _ => cases hkind

/-- Numbers are legible. -/
theorem legible_number {text : Text} (hs : (number text).IsSourced .standard) :
    (number text).Legible := by
  intro f rest more hf heq
  have hkind := kind?_eq hs (hf _ .here) heq
  cases f with
  | number other =>
    simp only [outline, List.append_assoc] at heq
    obtain ⟨hsame, hrest⟩ := Text.append_cons_inj (parenthesis_notMem hs)
      (parenthesis_notMem (hf _ .here)) (List.append_cancel_left heq)
    exact ⟨by rw [hsame], hrest⟩
  | _ => cases hkind

/-- Variables are legible. -/
theorem legible_symbol {name : Text} (hs : (symbol name).IsSourced .standard) :
    (symbol name).Legible := by
  intro f rest more hf heq
  have hkind := kind?_eq hs (hf _ .here) heq
  cases f with
  | symbol other =>
    have hclosing : Identifier.continues (.char ')') = false := by decide
    have hother : IsIdentifier other := hf _ .here
    simp only [outline, List.append_assoc] at heq
    obtain ⟨hsame, hrest⟩ := Text.append_cons_inj (IsIdentifier.notMem hs hclosing)
      (hother.notMem hclosing) (List.append_cancel_left heq)
    exact ⟨by rw [hsame], hrest⟩
  | _ => cases hkind

/-- Calls are legible if their arguments are. -/
theorem legible_call {name : Text} {args : List Expr} (hs : (call name args).AllSourced .standard)
    (hargs : ∀ e ∈ args, e.Legible) : (call name args).Legible := by
  intro f rest more hf heq
  have hkind := kind?_eq (hs _ .here) (hf _ .here) heq
  cases f with
  | call other others =>
    have hsourced : ∀ e ∈ args, e.AllSourced .standard := fun e he => hs.part he
    have hothers : ∀ e ∈ others, e.AllSourced .standard := fun e he => hf.part he
    simp only [outline, List.append_assoc] at heq
    obtain ⟨hname, hlists⟩ := Text.append_cons_inj (comma_notMem (hs _ .here))
      (comma_notMem (hf _ .here)) (List.append_cancel_left heq)
    obtain ⟨hsame, hrest⟩ := outlines_inj hargs hsourced hothers hlists
    exact ⟨by rw [hname, hsame], List.append_cancel_left hrest⟩
  | _ => cases hkind

/-- Sequences are legible if their parts are. -/
theorem legible_sequence {body : List Expr} (hs : (sequence body).AllSourced .standard)
    (hbody : ∀ e ∈ body, e.Legible) : (sequence body).Legible := by
  intro f rest more hf heq
  have hkind := kind?_eq (hs _ .here) (hf _ .here) heq
  cases f with
  | sequence others =>
    have hsourced : ∀ e ∈ body, e.AllSourced .standard := fun e he => hs.part he
    have hothers : ∀ e ∈ others, e.AllSourced .standard := fun e he => hf.part he
    simp only [outline, List.append_assoc] at heq
    obtain ⟨hsame, hrest⟩ := outlines_inj hbody hsourced hothers (List.append_cancel_left heq)
    exact ⟨by rw [hsame], hrest⟩
  | _ => cases hkind

/-- Vectors are legible if their items are. -/
theorem legible_vector {items : List Expr} (hs : (vector items).AllSourced .standard)
    (hitems : ∀ e ∈ items, e.Legible) : (vector items).Legible := by
  intro f rest more hf heq
  have hkind := kind?_eq (hs _ .here) (hf _ .here) heq
  cases f with
  | vector others =>
    have hsourced : ∀ e ∈ items, e.AllSourced .standard := fun e he => hs.part he
    have hothers : ∀ e ∈ others, e.AllSourced .standard := fun e he => hf.part he
    simp only [outline, List.append_assoc] at heq
    obtain ⟨hsame, hrest⟩ := outlines_inj hitems hsourced hothers (List.append_cancel_left heq)
    exact ⟨by rw [hsame], hrest⟩
  | _ => cases hkind

/-- Declarations are legible if their bodies are. -/
theorem legible_define {name : Text} {params : List Text} {body : List Expr}
    (hs : (define name params body).AllSourced .standard) (hbody : ∀ e ∈ body, e.Legible) :
    (define name params body).Legible := by
  intro f rest more hf heq
  have hkind := kind?_eq (hs _ .here) (hf _ .here) heq
  cases f with
  | define other others rival =>
    have hcomma : Identifier.continues (.char ',') = false := by decide
    obtain ⟨hname, hparams⟩ : (define name params body).IsSourced .standard := hs _ .here
    obtain ⟨hother, hothers⟩ : (define other others rival).IsSourced .standard := hf _ .here
    have hsourced : ∀ e ∈ body, e.AllSourced .standard := fun e he => hs.part he
    have hrival : ∀ e ∈ rival, e.AllSourced .standard := fun e he => hf.part he
    simp only [outline, List.append_assoc] at heq
    obtain ⟨hsame, hlists⟩ := Text.append_cons_inj (hname.notMem hcomma) (hother.notMem hcomma)
      (List.append_cancel_left heq)
    obtain ⟨hnames, hbodies⟩ := names_inj hparams hothers hlists
    obtain ⟨hexprs, hrest⟩ := outlines_inj hbody hsourced hrival (List.append_cancel_left hbodies)
    exact ⟨by rw [hsame, hnames, hexprs], List.append_cancel_left hrest⟩
  | _ => cases hkind

/-- Bindings are legible if their values and bodies are. -/
theorem legible_bind {bound : List (Text × Expr)} {body : List Expr}
    (hs : (bind bound body).AllSourced .standard)
    (hparts : ∀ part ∈ bound.map Prod.snd ++ body, part.Legible) : (bind bound body).Legible := by
  intro f rest more hf heq
  have hkind := kind?_eq (hs _ .here) (hf _ .here) heq
  cases f with
  | bind others rival =>
    have hnames : ∀ b ∈ bound, IsIdentifier b.1 := hs _ .here
    have hothers : ∀ c ∈ others, IsIdentifier c.1 := hf _ .here
    obtain ⟨hvalues, hbody⟩ := List.forall_mem_append.mp hparts
    have hbound : ∀ c ∈ others, c.2.AllSourced .standard := fun c hc =>
      hf.part (List.mem_append_left rival (List.mem_map_of_mem hc))
    have hsourced : ∀ e ∈ body, e.AllSourced .standard := fun e he =>
      hs.part (List.mem_append_right _ he)
    have hrival : ∀ e ∈ rival, e.AllSourced .standard := fun e he =>
      hf.part (List.mem_append_right _ he)
    simp only [outline, List.append_assoc] at heq
    obtain ⟨hsame, hbodies⟩ := bindingOutlines_inj
      (fun b hb => ⟨hnames b hb, hvalues b.2 (List.mem_map_of_mem hb)⟩)
      (fun c hc => ⟨hothers c hc, hbound c hc⟩) (List.append_cancel_left heq)
    obtain ⟨hexprs, hrest⟩ := outlines_inj hbody hsourced hrival (List.append_cancel_left hbodies)
    exact ⟨by rw [hsame, hexprs], List.append_cancel_left hrest⟩
  | _ => cases hkind

/-- Conditionals with one branch are legible if their parts are. What stands after the first branch
tells whether there is a second one. -/
theorem legible_ifThen {test yes : Expr} (hs : (ifThen test yes).AllSourced .standard)
    (htest : test.Legible) (hyes : yes.Legible) : (ifThen test yes).Legible := by
  intro f rest more hf heq
  have hkind := kind?_eq (hs _ .here) (hf _ .here) heq
  cases f with
  | ifThen other branch =>
    obtain ⟨hother, hbranch⟩ := hf.ifThen
    simp only [outline, List.append_assoc] at heq
    obtain ⟨hsame, hbranches⟩ := htest other _ _ hother (List.append_cancel_left heq)
    obtain ⟨hfirst, hrest⟩ := hyes branch _ _ hbranch (List.append_cancel_left hbranches)
    exact ⟨by rw [hsame, hfirst], List.append_cancel_left hrest⟩
  | ifElse other branch no =>
    obtain ⟨hother, hbranch, -⟩ := hf.ifElse
    simp only [outline, List.append_assoc] at heq
    obtain ⟨-, hbranches⟩ := htest other _ _ hother (List.append_cancel_left heq)
    obtain ⟨-, hrest⟩ := hyes branch _ _ hbranch (List.append_cancel_left hbranches)
    exact absurd (List.cons.inj hrest).1 (by decide)
  | _ => cases hkind

/-- Conditionals with two branches are legible if their parts are. -/
theorem legible_ifElse {test yes no : Expr} (hs : (ifElse test yes no).AllSourced .standard)
    (htest : test.Legible) (hyes : yes.Legible) (hno : no.Legible) :
    (ifElse test yes no).Legible := by
  intro f rest more hf heq
  have hkind := kind?_eq (hs _ .here) (hf _ .here) heq
  cases f with
  | ifThen other branch =>
    obtain ⟨hother, hbranch⟩ := hf.ifThen
    simp only [outline, List.append_assoc] at heq
    obtain ⟨-, hbranches⟩ := htest other _ _ hother (List.append_cancel_left heq)
    obtain ⟨-, hrest⟩ := hyes branch _ _ hbranch (List.append_cancel_left hbranches)
    exact absurd (List.cons.inj hrest).1 (by decide)
  | ifElse other branch last =>
    obtain ⟨hother, hbranch, hlast⟩ := hf.ifElse
    simp only [outline, List.append_assoc] at heq
    obtain ⟨hsame, hbranches⟩ := htest other _ _ hother (List.append_cancel_left heq)
    obtain ⟨hfirst, hothers⟩ := hyes branch _ _ hbranch (List.append_cancel_left hbranches)
    obtain ⟨hsecond, hrest⟩ := hno last _ _ hlast (List.append_cancel_left hothers)
    exact ⟨by rw [hsame, hfirst, hsecond], List.append_cancel_left hrest⟩
  | _ => cases hkind

/-- A part is smaller than the expression. -/
theorem sizeOf_lt_of_mem_parts {part : Expr} (h : part ∈ e.parts) : sizeOf part < sizeOf e := by
  cases e with
  | call name args =>
    have hmem := List.sizeOf_lt_of_mem (show part ∈ args from h)
    simp only [call.sizeOf_spec]
    omega
  | sequence body =>
    have hmem := List.sizeOf_lt_of_mem (show part ∈ body from h)
    simp only [sequence.sizeOf_spec]
    omega
  | vector items =>
    have hmem := List.sizeOf_lt_of_mem (show part ∈ items from h)
    simp only [vector.sizeOf_spec]
    omega
  | define name params body =>
    have hmem := List.sizeOf_lt_of_mem (show part ∈ body from h)
    simp only [define.sizeOf_spec]
    omega
  | ifThen test yes =>
    simp only [parts, List.mem_cons, List.not_mem_nil, or_false] at h
    rcases h with rfl | rfl <;> simp only [ifThen.sizeOf_spec] <;> omega
  | ifElse test yes no =>
    simp only [parts, List.mem_cons, List.not_mem_nil, or_false] at h
    rcases h with rfl | rfl | rfl <;> simp only [ifElse.sizeOf_spec] <;> omega
  | bind bound body =>
    simp only [bind.sizeOf_spec]
    rcases List.mem_append.mp h with hvalue | hbody
    · obtain ⟨b, hb, rfl⟩ := List.mem_map.mp hvalue
      have hmem := List.sizeOf_lt_of_mem hb
      have hpair : sizeOf b = 1 + sizeOf b.1 + sizeOf b.2 := Prod.mk.sizeOf_spec b.1 b.2
      omega
    · have hmem := List.sizeOf_lt_of_mem hbody
      omega
  | foreign inner =>
    have hinner : part = inner := List.mem_singleton.mp h
    simp only [hinner, foreign.sizeOf_spec]
    omega
  | _ => exact absurd h List.not_mem_nil

/-- What holds of an expression if it holds of its parts holds of every expression. -/
theorem parts_induction {motive : Expr → Prop}
    (step : ∀ e, (∀ part ∈ e.parts, motive part) → motive e) (e : Expr) : motive e :=
  step e fun part hpart =>
    have _ := sizeOf_lt_of_mem_parts hpart
    parts_induction step part
  termination_by sizeOf e

/-- Every expression from a source is legible. -/
theorem legible (hs : e.AllSourced .standard) : e.Legible := by
  induction e using parts_induction with
  | step e ih =>
    have hparts : ∀ part ∈ e.parts, part.Legible := fun part hpart => ih part hpart (hs.part hpart)
    cases e with
    | string text => exact legible_string (hs _ .here)
    | number text => exact legible_number (hs _ .here)
    | symbol name => exact legible_symbol (hs _ .here)
    | call name args => exact legible_call hs hparts
    | ifThen test yes =>
      exact legible_ifThen hs (hparts test (by simp [parts])) (hparts yes (by simp [parts]))
    | ifElse test yes no =>
      exact legible_ifElse hs (hparts test (by simp [parts])) (hparts yes (by simp [parts]))
        (hparts no (by simp [parts]))
    | bind bound body => exact legible_bind hs hparts
    | sequence body => exact legible_sequence hs hparts
    | vector items => exact legible_vector hs hparts
    | define name params body => exact legible_define hs hparts
    | external name params native => exact (hs _ .here).elim
    | missing => exact (hs _ .here).elim
    | foreign inner => exact (hs _ .here).elim

/-- Expressions from sources are told by their outlines. -/
theorem eq_of_outline (he : e.AllSourced .standard) (hf : f.AllSourced .standard)
    (h : e.outline = f.outline) : e = f := by
  have hends : e.outline ++ [] = f.outline ++ [] := by rw [h]
  exact (legible he f [] [] hf hends).1

/-- Lists of expressions from sources are told by their outlines. -/
theorem eq_of_map_outline {exprs rivals : List Expr} (hexprs : ∀ e ∈ exprs, e.AllSourced .standard)
    (hrivals : ∀ f ∈ rivals, f.AllSourced .standard)
    (h : exprs.map outline = rivals.map outline) : exprs = rivals := by
  induction exprs generalizing rivals with
  | nil => exact (List.map_eq_nil_iff.mp h.symm).symm
  | cons e rest ih =>
    cases rivals with
    | nil => cases h
    | cons f others =>
      obtain ⟨he, hrest⟩ := List.forall_mem_cons.mp hexprs
      obtain ⟨hf, hothers⟩ := List.forall_mem_cons.mp hrivals
      obtain ⟨hfirst, hlater⟩ := List.cons.inj h
      rw [eq_of_outline he hf hfirst, ih hrest hothers hlater]

/-- A list of texts without newlines has none. -/
theorem newline_notMem_bracketed {parts : List Text} (h : ∀ t ∈ parts, newline ∉ t) :
    newline ∉ bracketed parts := by
  have hcomma : newline ∉ Text.ofString "," := by decide
  have hjoin := Text.newline_not_mem_join hcomma h
  simp only [bracketed, List.mem_append, not_or]
  exact ⟨⟨by decide, hjoin⟩, by decide⟩

/-- A list of outlines without newlines has none. -/
theorem newline_notMem_outlines {exprs : List Expr} (h : ∀ e ∈ exprs, newline ∉ e.outline) :
    newline ∉ bracketed (outlines exprs) := by
  rw [outlines_eq_map]
  exact newline_notMem_bracketed (List.forall_mem_map.mpr h)

/-- A list of bindings without newlines has none. -/
theorem newline_notMem_bindingOutlines {bound : List (Text × Expr)}
    (hnames : ∀ b ∈ bound, newline ∉ b.1) (hvalues : ∀ b ∈ bound, newline ∉ b.2.outline) :
    newline ∉ bracketed (bindingOutlines bound) := by
  rw [bindingOutlines_eq_map]
  refine newline_notMem_bracketed (List.forall_mem_map.mpr fun b hb => ?_)
  simp only [bindingOutline, List.mem_append, not_or]
  exact ⟨⟨hnames b hb, by decide⟩, hvalues b hb⟩

/-- The outlines of expressions from sources have no newlines. -/
theorem newline_notMem_outline (hs : e.AllSourced .standard) : newline ∉ e.outline := by
  have htargets : ∀ b ∈ Library.standardBuiltins, newline ∉ b.target := by decide
  have hwords : Render.Inherited .standard Text.OneLine := inherited_oneLine htargets
  induction e using parts_induction with
  | step e ih =>
    have hparts : ∀ part ∈ e.parts, newline ∉ part.outline := fun part hpart =>
      ih part hpart (hs.part hpart)
    have hroot : e.IsSourced .standard := hs _ .here
    cases e with
    | string text =>
      simp only [outline, List.mem_append, not_or]
      exact ⟨⟨by decide, (hwords.string text hroot).noNewline⟩, by decide⟩
    | number text =>
      simp only [outline, List.mem_append, not_or]
      exact ⟨⟨by decide, (hwords.number text hroot).noNewline⟩, by decide⟩
    | symbol name =>
      simp only [outline, List.mem_append, not_or]
      exact ⟨⟨by decide, (hwords.identifier name hroot).noNewline⟩, by decide⟩
    | call name args =>
      have hname : newline ∉ name := newline_not_mem_of_isSourced htargets hroot
      simp only [outline, List.mem_append, not_or]
      exact ⟨⟨⟨⟨by decide, hname⟩, by decide⟩, newline_notMem_outlines hparts⟩, by decide⟩
    | ifThen test yes =>
      have htest := hparts test (by simp [parts])
      have hyes := hparts yes (by simp [parts])
      simp only [outline, List.mem_append, not_or]
      exact ⟨⟨⟨⟨by decide, htest⟩, by decide⟩, hyes⟩, by decide⟩
    | ifElse test yes no =>
      have htest := hparts test (by simp [parts])
      have hyes := hparts yes (by simp [parts])
      have hno := hparts no (by simp [parts])
      simp only [outline, List.mem_append, not_or]
      exact ⟨⟨⟨⟨⟨⟨by decide, htest⟩, by decide⟩, hyes⟩, by decide⟩, hno⟩, by decide⟩
    | bind bound body =>
      obtain ⟨hvalues, hbody⟩ := List.forall_mem_append.mp hparts
      have hbound := newline_notMem_bindingOutlines
        (fun b hb => (hwords.identifier b.1 (hroot b hb)).noNewline)
        (fun b hb => hvalues b.2 (List.mem_map_of_mem hb))
      simp only [outline, List.mem_append, not_or]
      exact ⟨⟨⟨⟨by decide, hbound⟩, by decide⟩, newline_notMem_outlines hbody⟩, by decide⟩
    | sequence body =>
      simp only [outline, List.mem_append, not_or]
      exact ⟨by decide, newline_notMem_outlines hparts⟩
    | vector items =>
      simp only [outline, List.mem_append, not_or]
      exact ⟨by decide, newline_notMem_outlines hparts⟩
    | define name params body =>
      have hname := (hwords.identifier name hroot.1).noNewline
      have hnames : newline ∉ bracketed params :=
        newline_notMem_bracketed fun t ht => (hwords.identifier t (hroot.2 t ht)).noNewline
      have hbody := newline_notMem_outlines hparts
      simp only [outline, List.mem_append, not_or]
      exact ⟨⟨⟨⟨⟨⟨by decide, hname⟩, by decide⟩, hnames⟩, by decide⟩, hbody⟩, by decide⟩
    | external name params native => exact hroot.elim
    | missing => exact hroot.elim
    | foreign inner => exact hroot.elim

end Expr

/-- As many expressions as forms are resolved in a sequence. -/
theorem ResolvesSequence.length_eq {forms : List Form} {scope final : Scope} {exprs : List Expr}
    (h : ResolvesSequence scope forms exprs final) : exprs.length = forms.length := by
  induction forms generalizing scope exprs with
  | nil =>
    cases h
    rfl
  | cons f rest ih =>
    cases h with
    | cons first later => exact congrArg (· + 1) (ih later)

/-- `out` outlines these expressions of a source over the standard library: one for each form, and each
on a line of its own. -/
structure Outlines (source out : Text) (exprs : List Expr) : Prop where
  /-- The expressions are those of the source, one for each of its forms. -/
  resolved : ∃ forms next, read source = .ok forms ∧
    resolve (.ofLibrary .standard) forms = .ok (exprs, next) ∧ exprs.length = forms.length
  /-- The lines are the outlines, and nothing follows the last one. -/
  lines : out.lines = exprs.map Expr.outline ++ [[]]

namespace Outlines

variable {source other out : Text} {exprs rivals : List Expr}

/-- The outlines of a source are the outlines of its expressions. -/
theorem of_outlineSource (h : outlineSource .standard source = .ok out) :
    ∃ exprs, Outlines source out exprs ∧ (∀ e ∈ exprs, e.AllSourced .standard) ∧
      out = (exprs.map Expr.outline).flatMap (· ++ [newline]) := by
  obtain ⟨⟨exprs, next⟩, hresolved, hout⟩ := Fallible.bind_eq_ok.mp h
  cases hout
  obtain ⟨forms, hread, hresolve⟩ := Fallible.bind_eq_ok.mp hresolved
  have hforms := Fallible.mapError_eq_ok.mp hread
  have hexprs := Fallible.mapError_eq_ok.mp hresolve
  have hsourced := allSourced_of_resolve .library hforms hexprs
  have hout : (exprs.flatMap fun e => e.outline ++ [newline]) =
      (exprs.map Expr.outline).flatMap (· ++ [newline]) := by
    rw [List.flatMap_map]
  have hlines : ∀ t ∈ exprs.map Expr.outline, newline ∉ t :=
    List.forall_mem_map.mpr fun e he => Expr.newline_notMem_outline (hsourced e he)
  refine ⟨exprs, ⟨⟨forms, next, hforms, hexprs, ?_⟩, ?_⟩, hsourced, hout⟩
  · exact (Resolve.sequence_derivation hexprs).length_eq
  · exact (congrArg Text.lines hout).trans (Text.splitOn_closed hlines)

/-- A source compiles to what its expressions are written as. -/
theorem compileBody_eq (h : Outlines source out exprs) :
    compileBody .standard source = (render .standard exprs).mapError .render := by
  obtain ⟨forms, next, hread, hresolve, -⟩ := h.resolved
  have hsource : resolveSource (.ofLibrary .standard) source = .ok (exprs, next) :=
    Fallible.bind_eq_ok.mpr
      ⟨forms, Fallible.mapError_eq_ok.mpr hread, Fallible.mapError_eq_ok.mpr hresolve⟩
  rw [compileBody, compileUnder, hsource]
  simp only [Bind.bind, Except.bind]
  cases render .standard exprs <;> rfl

end Outlines

/-- The outlines of two sources over the standard library are told apart: expressions anywhere in them
that have the same outline are the same. So the outlines of the sources are the same if and only if
their expressions are, and then both compile to the same. -/
theorem outlineSource_tells {source other out answer : Text}
    (h : outlineSource .standard source = .ok out)
    (hother : outlineSource .standard other = .ok answer) :
    ∃ exprs rivals, Outlines source out exprs ∧ Outlines other answer rivals ∧
      (∀ e ∈ exprs, ∀ f ∈ rivals, ∀ part rival, Expr.Occurs part e → Expr.Occurs rival f →
        part.outline = rival.outline → part = rival) ∧
      (out = answer ↔ exprs = rivals) ∧
      (out = answer → ∀ withPrologue, (Compiler.compile ⟨.standard, withPrologue⟩ none source).result =
        (Compiler.compile ⟨.standard, withPrologue⟩ none other).result) := by
  obtain ⟨exprs, houtlines, hsourced, hout⟩ := Outlines.of_outlineSource h
  obtain ⟨rivals, hrivals, hsourced', hanswer⟩ := Outlines.of_outlineSource hother
  have hparts : ∀ e ∈ exprs, ∀ f ∈ rivals, ∀ part rival, Expr.Occurs part e → Expr.Occurs rival f →
      part.outline = rival.outline → part = rival := by
    intro e he f hf part rival hpart hrival houtline
    have hfirst : part.AllSourced .standard := fun inner hinner =>
      hsourced e he inner (hinner.trans hpart)
    have hsecond : rival.AllSourced .standard := fun inner hinner =>
      hsourced' f hf inner (hinner.trans hrival)
    exact Expr.eq_of_outline hfirst hsecond houtline
  have hsame : out = answer ↔ exprs = rivals := by
    constructor
    · intro heq
      rw [hout, hanswer] at heq
      have hnone : ∀ t ∈ exprs.map Expr.outline, newline ∉ t :=
        List.forall_mem_map.mpr fun e he => Expr.newline_notMem_outline (hsourced e he)
      have hnone' : ∀ t ∈ rivals.map Expr.outline, newline ∉ t :=
        List.forall_mem_map.mpr fun f hf => Expr.newline_notMem_outline (hsourced' f hf)
      exact Expr.eq_of_map_outline hsourced hsourced' (Text.closed_inj hnone hnone' heq)
    · intro heq
      rw [hout, hanswer, heq]
  refine ⟨exprs, rivals, houtlines, hrivals, hparts, hsame, ?_⟩
  intro heq withPrologue
  have hbody : compileBody .standard source = compileBody .standard other := by
    rw [houtlines.compileBody_eq, hrivals.compileBody_eq, hsame.mp heq]
  simp only [Compiler.compile, Compiler.result_body_none, hbody]

/-- A variable that is spelled with a hyphen, and a string of delimiters. -/
def hyphened : Text :=
  "(let [a-b 1] (if a-b \"],[)\" (str 2)))"

/-- The same with an underscore, over two lines. -/
def underscored : Text :=
  "(let [a_b 1]\n(if a_b \"],[)\" (str 2)))"

/-- The outline of both. -/
def sharedOutline : Text :=
  "LetBinding\x7b[a_b=Number(1)],[Conditional\x7bSymbol(a_b),String(\"],[)\")," ++
    "FunctionCall\x7bstr,[Number(2)]\x7d\x7d]\x7d\n"

/-- Two spellings of a name have the same outlines, so they compile to the same. -/
theorem outlineSource_hyphened :
    outlineSource .standard hyphened = .ok sharedOutline ∧
      outlineSource .standard underscored = .ok sharedOutline ∧
      (Compiler.compile ⟨.standard, true⟩ none hyphened).result =
        (Compiler.compile ⟨.standard, true⟩ none underscored).result := by
  have hread : read hyphened = .ok
      [.group .round
        [.leaf .atom "let" ⟨1, 1, 2⟩,
          .group .square [.leaf .atom "a-b" ⟨6, 1, 7⟩, .leaf .number "1" ⟨10, 1, 11⟩] ⟨5, 1, 6⟩,
          .group .round
            [.leaf .atom "if" ⟨14, 1, 15⟩, .leaf .atom "a-b" ⟨17, 1, 18⟩,
              .leaf .string "\"],[)\"" ⟨21, 1, 22⟩,
              .group .round [.leaf .atom "str" ⟨29, 1, 30⟩, .leaf .number "2" ⟨33, 1, 34⟩] ⟨28, 1, 29⟩]
            ⟨13, 1, 14⟩] ⟨0, 1, 1⟩] := by
    with_unfolding_all rfl
  have hagain : read underscored = .ok
      [.group .round
        [.leaf .atom "let" ⟨1, 1, 2⟩,
          .group .square [.leaf .atom "a_b" ⟨6, 1, 7⟩, .leaf .number "1" ⟨10, 1, 11⟩] ⟨5, 1, 6⟩,
          .group .round
            [.leaf .atom "if" ⟨14, 2, 2⟩, .leaf .atom "a_b" ⟨17, 2, 5⟩,
              .leaf .string "\"],[)\"" ⟨21, 2, 9⟩,
              .group .round [.leaf .atom "str" ⟨29, 2, 17⟩, .leaf .number "2" ⟨33, 2, 21⟩] ⟨28, 2, 16⟩]
            ⟨13, 2, 1⟩] ⟨0, 1, 1⟩] := by
    with_unfolding_all rfl
  have hfirst : outlineSource .standard hyphened = .ok sharedOutline := by
    rw [outlineSource, resolveSource, hread]
    rfl
  have hsecond : outlineSource .standard underscored = .ok sharedOutline := by
    rw [outlineSource, resolveSource, hagain]
    rfl
  obtain ⟨exprs, rivals, -, -, -, -, hcompile⟩ := outlineSource_tells hfirst hsecond
  exact ⟨hfirst, hsecond, hcompile rfl true⟩

end SwiftForms
