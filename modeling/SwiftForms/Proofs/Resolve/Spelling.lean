import SwiftForms.Proofs.Form.RoundTrip
import SwiftForms.Proofs.Scope.Sound
import SwiftForms.Proofs.Swift.Naming

/-!
# The words of resolved programs

The words of a resolved program come from its source or from the library: strings and numbers as they
are spelled in the source, and identifiers of its names or targets of builtins. This holds because a
function in scope is a builtin or goes by the identifier of its own name. So over the standard library
each word is spelled as Swift takes words of its kind.
-/

namespace SwiftForms

open Swift

/-- Every function in a scope is called by the target of a builtin, with as many arguments as the
builtin has, or by the identifier of its name. -/
def Scope.Named (lib : Library) (scope : Scope) : Prop :=
  ∀ name d, scope.function? name = some d →
    (∃ b ∈ lib.builtins, d.target = b.target ∧ d.arity = b.params.length) ∨
      d.target = Identifier.ofName name

namespace Scope.Named

variable {lib : Library} {scope : Scope}

/-- The functions of a library are its builtins. -/
theorem ofLibrary (lib : Library) : Scope.Named lib (.ofLibrary lib) := by
  intro name d hd
  obtain ⟨b, hb, -, rfl⟩ := function?_ofLibrary.mp hd
  exact .inl ⟨b, hb, rfl, rfl⟩

/-- Declaring a function by the identifier of its name. -/
theorem withFunction (h : scope.Named lib) {name : Text} {d : Declaration}
    (hd : d.target = Identifier.ofName name) : (scope.withFunction name d).Named lib := by
  intro other found hfound
  rw [Scope.function?, Scope.withFunction, Dict.find?_insert] at hfound
  split at hfound
  · rename_i heq
    cases hfound
    exact .inr (heq ▸ hd)
  · exact h other found hfound

/-- Binding variables declares no function. -/
theorem withSymbols (h : scope.Named lib) (names : List Text) : (scope.withSymbols names).Named lib :=
  h

/-- The scope inside a declaration. -/
theorem insideFunction (h : scope.Named lib) (name : Text) (params : List Text) :
    (scope.insideFunction name params).Named lib :=
  (h.withSymbols params).withFunction rfl

/-- A resolved form leaves such a scope behind. -/
theorem scopeAfter (h : scope.Named lib) {f : Form} {e : Expr} (hresolves : Resolves scope f e) :
    (Resolve.scopeAfter scope f e).Named lib := by
  rcases hresolves.scopeAfter_cases with ⟨hsame, _⟩ | ⟨name, names, exprs, -, -, hafter⟩
  · rw [hsame]
    exact h
  · rw [hafter]
    exact h.withFunction rfl

/-- A resolved sequence leaves such a scope behind. -/
theorem sequence {forms : List Form} {final : Scope} {exprs : List Expr} (h : scope.Named lib)
    (hresolves : ResolvesSequence scope forms exprs final) : final.Named lib := by
  induction forms generalizing scope exprs with
  | nil =>
    cases hresolves
    exact h
  | cons f rest ih =>
    cases hresolves with
    | cons first later => exact ih (h.scopeAfter first) later

end Scope.Named

/-- Every scope that programs over a library are resolved under has such functions. -/
theorem Scope.Reachable.named {lib : Library} {scope : Scope} (h : Reachable lib scope) :
    scope.Named lib := by
  induction h with
  | library => exact Named.ofLibrary lib
  | withSymbols names _ ih => exact ih.withSymbols names
  | resolve _ hresolve ih => exact ih.sequence (Resolve.sequence_derivation hresolve)

/-- The identifier of some name. -/
def IsIdentifier (text : Text) : Prop :=
  ∃ name, name ≠ [] ∧ text = Identifier.ofName name

/-- What identifiers are not made of is in none of them. -/
theorem IsIdentifier.notMem {text : Text} {g : Glyph} (h : IsIdentifier text)
    (hg : Identifier.continues g = false) : g ∉ text := by
  obtain ⟨name, -, rfl⟩ := h
  intro hmem
  rw [Identifier.continues_of_mem_ofName name g hmem] at hg
  cases hg

/-- What numerals are not made of is in no number. -/
theorem Leaf.notMem_of_number {text : Text} {g : Glyph} (h : Leaf.Admits .number text)
    (hg : g ∉ Pattern.alphabet Numeral.pattern) : g ∉ text :=
  fun hmem => hg (Pattern.mem_alphabet_of_mem h.1 g hmem)

namespace Expr

/-- The words at the root of an expression come from a source text or from the library. A function that
is implemented elsewhere is declared in no source. -/
def IsSourced (lib : Library) : Expr → Prop
  | .string text => Leaf.Admits .string text
  | .number text => Leaf.Admits .number text
  | .symbol name => IsIdentifier name
  | .call name args =>
    (∃ b ∈ lib.builtins, name = b.target ∧ args.length = b.params.length) ∨ IsIdentifier name
  | .define name params _ => IsIdentifier name ∧ ∀ param ∈ params, IsIdentifier param
  | .bind bound _ => ∀ b ∈ bound, IsIdentifier b.1
  | .external _ _ _ | .missing | .foreign _ => False
  | _ => True

/-- What is neither in the targets of a library nor in identifiers is in nothing that is called. -/
theorem notMem_of_isSourced {lib : Library} {g : Glyph} (htargets : ∀ b ∈ lib.builtins, g ∉ b.target)
    (hg : Identifier.continues g = false) {name : Text} {args : List Expr}
    (h : (Expr.call name args).IsSourced lib) : g ∉ name := by
  rcases h with ⟨b, hb, rfl, -⟩ | hidentifier
  · exact htargets b hb
  · exact hidentifier.notMem hg

/-- All words of an expression come from a source text or from the library. -/
def AllSourced (lib : Library) (e : Expr) : Prop :=
  ∀ part, Occurs part e → part.IsSourced lib

variable {lib : Library} {e : Expr}

/-- The words of an expression are those at its root and those of its parts. -/
theorem AllSourced.intro (h : e.IsSourced lib) (hparts : ∀ part ∈ e.parts, part.AllSourced lib) :
    e.AllSourced lib := by
  intro part hoccurs
  cases hoccurs with
  | here => exact h
  | inside hpart hinside => exact hparts _ hpart part hinside

/-- The words of a part are among those of the whole. -/
theorem AllSourced.part (h : e.AllSourced lib) {part : Expr} (hpart : part ∈ e.parts) :
    part.AllSourced lib :=
  fun inner hinner => h inner (.inside hpart hinner)

/-- The words of the test and of the branch of a conditional. -/
theorem AllSourced.ifThen {test yes : Expr} (h : (Expr.ifThen test yes).AllSourced lib) :
    test.AllSourced lib ∧ yes.AllSourced lib :=
  ⟨h.part (by simp [parts]), h.part (by simp [parts])⟩

/-- The words of the test and of both branches of a conditional. -/
theorem AllSourced.ifElse {test yes no : Expr} (h : (Expr.ifElse test yes no).AllSourced lib) :
    test.AllSourced lib ∧ yes.AllSourced lib ∧ no.AllSourced lib :=
  ⟨h.part (by simp [parts]), h.part (by simp [parts]), h.part (by simp [parts])⟩

end Expr

/-- A function in scope is called by the target of a builtin or by the identifier of its name. -/
theorem Scope.Named.isSourced_call {lib : Library} {scope : Scope} (h : scope.Named lib) {name : Text}
    {d : Declaration} (hd : scope.function? name = some d) (hname : name ≠ []) {args : List Expr}
    (harity : args.length = d.arity) : (Expr.call d.target args).IsSourced lib := by
  rcases h name d hd with ⟨b, hb, htarget, hparams⟩ | htarget
  · exact .inl ⟨b, hb, htarget, harity.trans hparams⟩
  · exact .inr ⟨name, hname, htarget⟩

/-- A name that is well formed is not empty. -/
theorem Form.WellFormed.name_ne_nil {levels : Nat} {name : Text} {pos : Position}
    (h : (Form.leaf .atom name pos).WellFormed levels) : name ≠ [] := by
  cases h with
  | leaf admits => exact admits.1

/-- The forms inside a well formed list or vector are well formed. -/
theorem Form.WellFormed.exists_inside {levels : Nat} {bracket : Bracket} {children : List Form}
    {pos : Position} (h : (Form.group bracket children pos).WellFormed levels) :
    ∃ inner, ∀ form ∈ children, form.WellFormed inner := by
  cases h with
  | group inside => exact ⟨_, inside⟩

/-- The names that well formed words spell have identifiers. -/
theorem Resolve.Spells.isIdentifier {levels : Nat} {forms : List Form} {names : List Text}
    (h : Spells forms names) (hforms : ∀ f ∈ forms, f.WellFormed levels) :
    ∀ text ∈ names.map Identifier.ofName, IsIdentifier text := by
  rw [h.texts, List.map_map]
  refine List.forall_mem_map.mpr fun f hf => ⟨f.text, ?_, rfl⟩
  have hatom := h.atoms f hf
  have hwell := hforms f hf
  cases f with
  | leaf kind text pos =>
    cases hatom
    exact hwell.name_ne_nil
  | group bracket children pos => cases bracket <;> cases hatom

/-- The names of a binding are among its forms. -/
theorem Resolve.mem_of_mem_pairHeads : ∀ {pairs : List Form}, ∀ f ∈ pairHeads pairs, f ∈ pairs
  | [], _, hf => absurd hf List.not_mem_nil
  | [_], _, hf => absurd hf List.not_mem_nil
  | name :: value :: rest, f, hf => by
    rcases List.mem_cons.mp hf with rfl | hlater
    · exact List.mem_cons_self
    · exact List.mem_cons_of_mem name (List.mem_cons_of_mem value (mem_of_mem_pairHeads f hlater))

mutual

/-- The words of what is resolved from a well formed form. -/
theorem Resolves.allSourced {lib : Library} {scope : Scope} (hs : scope.Named lib) {levels : Nat} :
    ∀ {f : Form} {e : Expr}, f.WellFormed levels → Resolves scope f e → e.AllSourced lib
  | _, _, hf, .string => by
    cases hf with
    | leaf admits => exact .intro admits nofun
  | _, _, hf, .number => by
    cases hf with
    | leaf admits => exact .intro admits nofun
  | _, _, hf, .symbol _ => .intro ⟨_, hf.name_ne_nil, rfl⟩ nofun
  | _, _, hf, .vector values => by
    obtain ⟨inner, hinside⟩ := hf.exists_inside
    exact .intro trivial (values.allSourced hs hinside)
  | _, _, hf, .call _ declared arity values => by
    obtain ⟨inner, hinside⟩ := hf.exists_inside
    obtain ⟨hhead, hargs⟩ := List.forall_mem_cons.mp hinside
    have hcall := hs.isSourced_call declared hhead.name_ne_nil (values.length_eq.trans arity)
    exact .intro hcall (values.allSourced hs hargs)
  | _, _, hf, .define _ _ spells inside => by
    obtain ⟨inner, hinside⟩ := hf.exists_inside
    obtain ⟨-, hrest⟩ := List.forall_mem_cons.mp hinside
    obtain ⟨hname, hrest⟩ := List.forall_mem_cons.mp hrest
    obtain ⟨hvector, hbody⟩ := List.forall_mem_cons.mp hrest
    obtain ⟨inmost, hparams⟩ := hvector.exists_inside
    exact .intro ⟨⟨_, hname.name_ne_nil, rfl⟩, spells.isIdentifier hparams⟩
      (inside.allSourced (hs.insideFunction _ _) hbody)
  | _, _, hf, .ifThen _ _ tested yesBranch => by
    obtain ⟨inner, hinside⟩ := hf.exists_inside
    simp only [List.forall_mem_cons] at hinside
    obtain ⟨-, htest, hyes, -⟩ := hinside
    refine .intro trivial (List.forall_mem_cons.mpr ⟨tested.allSourced hs htest, ?_⟩)
    exact List.forall_mem_singleton.mpr (yesBranch.allSourced hs hyes)
  | _, _, hf, .ifElse _ _ tested yesBranch noBranch => by
    obtain ⟨inner, hinside⟩ := hf.exists_inside
    simp only [List.forall_mem_cons] at hinside
    obtain ⟨-, htest, hyes, hno, -⟩ := hinside
    refine .intro trivial (List.forall_mem_cons.mpr ⟨tested.allSourced hs htest, ?_⟩)
    exact List.forall_mem_cons.mpr ⟨yesBranch.allSourced hs hyes,
      List.forall_mem_singleton.mpr (noBranch.allSourced hs hno)⟩
  | _, _, hf, .bind _ spells values inside => by
    obtain ⟨inner, hinside⟩ := hf.exists_inside
    obtain ⟨-, hrest⟩ := List.forall_mem_cons.mp hinside
    obtain ⟨hpairs, hbody⟩ := List.forall_mem_cons.mp hrest
    obtain ⟨inmost, hbound⟩ := hpairs.exists_inside
    have hnames := spells.isIdentifier fun f hf => hbound f (Resolve.mem_of_mem_pairHeads f hf)
    rw [spells.texts, ← values.names] at hnames
    refine .intro (List.forall_mem_map.mp hnames) (List.forall_mem_append.mpr ⟨?_, ?_⟩)
    · exact List.forall_mem_map.mpr (values.allSourced (hs.withSymbols _) hbound)
    · exact inside.allSourced (hs.withSymbols _) hbody
  | _, _, hf, .sequence _ inside => by
    obtain ⟨inner, hinside⟩ := hf.exists_inside
    exact .intro trivial (inside.allSourced hs (List.forall_mem_cons.mp hinside).2)

/-- The words of values. -/
theorem ResolvesValues.allSourced {lib : Library} {scope : Scope} (hs : scope.Named lib)
    {levels : Nat} :
    ∀ {forms : List Form} {exprs : List Expr}, (∀ f ∈ forms, f.WellFormed levels) →
      ResolvesValues scope forms exprs → ∀ e ∈ exprs, e.AllSourced lib
  | _, _, _, .nil => nofun
  | _, _, hforms, .cons _ first later =>
    List.forall_mem_cons.mpr ⟨first.allSourced hs (List.forall_mem_cons.mp hforms).1,
      later.allSourced hs (List.forall_mem_cons.mp hforms).2⟩

/-- The words of the values of bindings. -/
theorem ResolvesBindings.allSourced {lib : Library} {scope : Scope} (hs : scope.Named lib)
    {levels : Nat} :
    ∀ {pairs : List Form} {bound : List (Text × Expr)}, (∀ f ∈ pairs, f.WellFormed levels) →
      ResolvesBindings scope pairs bound → ∀ b ∈ bound, b.2.AllSourced lib
  | _, _, _, .nil => nofun
  | _, _, hforms, .cons _ first later => by
    simp only [List.forall_mem_cons] at hforms
    obtain ⟨-, hfirst, hlater⟩ := hforms
    exact List.forall_mem_cons.mpr ⟨first.allSourced hs hfirst, later.allSourced hs hlater⟩

/-- The words of statements under one scope. -/
theorem ResolvesStatements.allSourced {lib : Library} {scope : Scope} (hs : scope.Named lib)
    {levels : Nat} :
    ∀ {forms : List Form} {exprs : List Expr}, (∀ f ∈ forms, f.WellFormed levels) →
      ResolvesStatements scope forms exprs → ∀ e ∈ exprs, e.AllSourced lib
  | _, _, _, .nil => nofun
  | _, _, hforms, .cons first later =>
    List.forall_mem_cons.mpr ⟨first.allSourced hs (List.forall_mem_cons.mp hforms).1,
      later.allSourced hs (List.forall_mem_cons.mp hforms).2⟩

/-- The words of a sequence. -/
theorem ResolvesSequence.allSourced {lib : Library} {scope : Scope} (hs : scope.Named lib)
    {levels : Nat} :
    ∀ {forms : List Form} {exprs : List Expr} {final : Scope}, (∀ f ∈ forms, f.WellFormed levels) →
      ResolvesSequence scope forms exprs final → ∀ e ∈ exprs, e.AllSourced lib
  | _, _, _, _, .nil => nofun
  | _, _, _, hforms, .cons first later =>
    List.forall_mem_cons.mpr ⟨first.allSourced hs (List.forall_mem_cons.mp hforms).1,
      later.allSourced (hs.scopeAfter first) (List.forall_mem_cons.mp hforms).2⟩

end

/-- The words of the expressions that a source text stands for come from that text or from the
library. -/
theorem allSourced_of_resolve {lib : Library} {scope next : Scope} {source : Text} {forms : List Form}
    {exprs : List Expr} (hscope : Scope.Reachable lib scope) (hread : read source = .ok forms)
    (hresolve : resolve scope forms = .ok (exprs, next)) : ∀ e ∈ exprs, e.AllSourced lib :=
  (Resolve.sequence_derivation hresolve).allSourced hscope.named (wellFormed_of_read hread)

namespace Expr

/-- The word at the root of an expression is spelled as Swift takes words of its kind. -/
def IsSpelled : Expr → Prop
  | .string text => ∃ body, text = .char '"' :: body ∧ Reader.Quoted body
  | .number text => text ∈ Numeral.pattern.matches'
  | .symbol name => IsName name
  | .call name args => (∃ op : Operator, name = op.text ∧ args.length = 2) ∨ IsName name
  | _ => True

/-- All words of an expression are spelled as Swift takes words of their kinds. -/
def AllSpelled (e : Expr) : Prop :=
  ∀ part, Occurs part e → part.IsSpelled

/-- A word from a source text or from the standard library is spelled as Swift takes words of its
kind. -/
theorem IsSourced.isSpelled {e : Expr} (h : e.IsSourced .standard) : e.IsSpelled := by
  have hbuiltins : ∀ b ∈ Library.standardBuiltins,
      (Operator.ofText? b.target ≠ none ∧ b.params.length = 2) ∨
        (b.target ≠ [] ∧ Identifier.ofName b.target = b.target) := by
    decide
  cases e with
  | string text => exact h.1
  | number text => exact h.1
  | symbol name =>
    obtain ⟨source, hsource, rfl⟩ := h
    exact Identifier.isName_ofName hsource
  | call name args =>
    rcases h with ⟨b, hb, rfl, hargs⟩ | ⟨source, hsource, rfl⟩
    · rcases hbuiltins b hb with ⟨hoperator, htwo⟩ | ⟨hne, hself⟩
      · obtain ⟨op, hop⟩ := Option.ne_none_iff_exists'.mp hoperator
        exact .inl ⟨op, Operator.text_of_ofText? hop, hargs.trans htwo⟩
      · exact .inr (hself ▸ Identifier.isName_ofName hne)
    · exact .inr (Identifier.isName_ofName hsource)
  | _ => trivial

end Expr

/-- The words of what a sequence of well formed forms stands for over the standard library are spelled
as Swift takes them. -/
theorem ResolvesSequence.allSpelled {scope final : Scope} (hs : scope.Named .standard) {levels : Nat}
    {forms : List Form} {exprs : List Expr} (hforms : ∀ f ∈ forms, f.WellFormed levels)
    (h : ResolvesSequence scope forms exprs final) : ∀ e ∈ exprs, e.AllSpelled :=
  fun e he part hpart => (h.allSourced hs hforms e he part hpart).isSpelled

/-- A value whose words are spelled as Swift takes them can be written and read. -/
theorem Expr.IsValue.isTerm {e : Expr} (h : e.IsValue .standard) (hspelled : e.AllSpelled)
    (hvector : ¬ e.HasVector) : IsTerm e := by
  induction h with
  | string =>
    obtain ⟨body, rfl, hbody⟩ := hspelled _ .here
    exact .string hbody
  | number => exact .number (hspelled _ .here)
  | symbol => exact .symbol (hspelled _ .here)
  | @call name args comparison each ih =>
    have hargs : ∀ arg ∈ args, IsTerm arg := by
      intro arg harg
      refine ih arg harg (fun part hpart => hspelled part (.inside harg hpart)) ?_
      rintro ⟨items, hitems⟩
      exact hvector ⟨items, .inside harg hitems⟩
    rcases hspelled _ .here with ⟨op, rfl, htwo⟩ | hname
    · obtain ⟨left, right, rfl⟩ := List.length_eq_two.mp htwo
      simp only [List.forall_mem_cons] at hargs
      exact .operation hargs.1 hargs.2.1
    · exact .call hname hargs
  | vector each ih => exact absurd (hasVector_vector _) hvector

end SwiftForms
