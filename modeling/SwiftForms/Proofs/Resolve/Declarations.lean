import SwiftForms.Proofs.Scope.Sound

/-!
# What a program declares

A program leaves a scope in which its declarations stand in front of what was visible before it. Only
the forms of the program itself count: a declaration inside another form is gone after that form. So
which names a program declares can be seen from its forms, and what they are declared as from the
expressions that the forms stand for.
-/

namespace SwiftForms

/-- A special form is found by the name at its head, and by no other. -/
theorem SpecialForm.ofName?_eq_some_iff {name : Text} {special : SpecialForm} :
    ofName? name = some special ↔ name = special.name := by
  constructor
  · intro h
    have hname := List.find?_some h
    exact (of_decide_eq_true hname).symm
  · rintro rfl
    cases special <;> decide

/-- The name that a form declares, if it is a declaration. -/
def Form.declared? : Form → Option Text
  | .group .round (.leaf .atom head _ :: .leaf .atom name _ :: _) _ =>
    if head = SpecialForm.define.name then some name else none
  | _ => none

/-- The function that a form declares by its name, if it stands for this expression. -/
def Form.declaration? (f : Form) (e : Expr) : Option (Text × Declaration) :=
  f.declared?.bind fun name => e.declaration?.map fun d => (name, d)

/-- The functions that forms declare, which stand for these expressions. -/
def declarations (program : List (Form × Expr)) : List (Text × Declaration) :=
  program.filterMap fun p => p.1.declaration? p.2

/-- The functions that two programs declare one after the other. -/
theorem declarations_append (program later : List (Form × Expr)) :
    declarations (program ++ later) = declarations program ++ declarations later :=
  List.filterMap_append

/-- The function with a name and a body, as a program declares it. -/
def Declaration.defined (name : Text) (params : List Text) (body : List Expr) : Declaration :=
  ⟨Identifier.ofName name, params.map Identifier.ofName, .forms body⟩

/-- A list with another head than that of declarations declares nothing, if it does not stand for a
declaration either. -/
theorem Resolve.declares_nothing {head : Text} {e : Expr}
    (hhead : SpecialForm.ofName? head ≠ some .define)
    (he : ∀ target params body, e ≠ .define target params body) (place : Position)
    (rest : List Form) (pos : Position) :
    Form.declared? (.group .round (.leaf .atom head place :: rest) pos) = none ∧
      ∀ other, scopeAfter other (.group .round (.leaf .atom head place :: rest) pos) e = other := by
  have hname : head ≠ SpecialForm.define.name := fun heq =>
    hhead (SpecialForm.ofName?_eq_some_iff.mpr heq)
  refine ⟨?_, fun _ => scopeAfter_of_ne_define he⟩
  unfold Form.declared?
  split
  · next heq =>
    cases heq
    exact if_neg hname
  · rfl

/-- What a resolved form declares. A declaration is added to any scope under its name, and anything
else adds nothing. -/
theorem Resolves.declared_cases {scope : Scope} {f : Form} {e : Expr} (h : Resolves scope f e) :
    (f.declared? = none ∧ ∀ other, Resolve.scopeAfter other f e = other) ∨
    ∃ name params body, f.declared? = some name ∧ scope.Admits name ∧
      e = (Declaration.defined name params body).toExpr ∧
      ∀ other, Resolve.scopeAfter other f e =
        other.withFunction name (.defined name params body) := by
  cases h with
  | define special admits spells inside =>
    have hhead := SpecialForm.ofName?_eq_some_iff.mp special
    exact .inr ⟨_, _, _, if_pos hhead, admits, rfl, fun _ => rfl⟩
  | string => exact .inl ⟨rfl, fun _ => rfl⟩
  | number => exact .inl ⟨rfl, fun _ => rfl⟩
  | symbol bound => exact .inl ⟨rfl, fun _ => rfl⟩
  | vector values => exact .inl ⟨rfl, fun _ => rfl⟩
  | call notSpecial declared arity values =>
    exact .inl (Resolve.declares_nothing (by simp [notSpecial]) (by simp) _ _ _)
  | ifThen special value tested yesBranch =>
    exact .inl (Resolve.declares_nothing (by simp [special]) (by simp) _ _ _)
  | ifElse special value tested yesBranch noBranch =>
    exact .inl (Resolve.declares_nothing (by simp [special]) (by simp) _ _ _)
  | bind special spells values inside =>
    exact .inl (Resolve.declares_nothing (by simp [special]) (by simp) _ _ _)
  | sequence special inside =>
    exact .inl (Resolve.declares_nothing (by simp [special]) (by simp) _ _ _)

/-- A form of a program and its expression: what it declares is a function with a body, under a name
that heads no special form and whose identifier the library does not reserve. -/
def Library.Allows (lib : Library) (f : Form) (e : Expr) : Prop :=
  ∀ name, f.declared? = some name → SpecialForm.ofName? name = none ∧
    lib.isReserved (Identifier.ofName name) = false ∧
    ∃ params body, e = (Declaration.defined name params body).toExpr

/-- A resolved form is allowed by the library of its scope. -/
theorem Resolves.allowed {lib : Library} {scope : Scope} {f : Form} {e : Expr}
    (h : Resolves scope f e) (hs : scope.Sound lib) : lib.Allows f e := by
  intro name hname
  rcases h.declared_cases with ⟨hnone, _⟩ | ⟨other, params, body, hother, hadmits, he, _⟩
  · rw [hnone] at hname
    cases hname
  · have hsame : other = name := Option.some.inj (hother.symm.trans hname)
    subst hsame
    have hreserved := hadmits.unreserved
    rw [Scope.isReserved, hs.reserved] at hreserved
    exact ⟨hadmits.notSpecial, hreserved, params, body, he⟩

/-- The functions that a program declares, each with the form that declares it. -/
theorem mem_declarations {program : List (Form × Expr)} {name : Text} {d : Declaration} :
    (name, d) ∈ declarations program ↔
      ∃ f e, (f, e) ∈ program ∧ f.declared? = some name ∧ e.declaration? = some d := by
  simp only [declarations, List.mem_filterMap, Prod.exists, Form.declaration?,
    Option.bind_eq_some_iff, Option.map_eq_some_iff, Prod.mk.injEq]
  constructor
  · rintro ⟨f, e, hmem, _, hname, _, hd, rfl, rfl⟩
    exact ⟨f, e, hmem, hname, hd⟩
  · rintro ⟨f, e, hmem, hname, hd⟩
    exact ⟨f, e, hmem, name, hname, d, hd, rfl, rfl⟩

/-- The names that an allowed program declares are those that can be seen in its forms. -/
theorem map_fst_declarations {lib : Library} {program : List (Form × Expr)}
    (h : ∀ p ∈ program, lib.Allows p.1 p.2) :
    (declarations program).map Prod.fst = program.filterMap fun p => p.1.declared? := by
  rw [declarations, List.map_filterMap]
  refine List.filterMap_congr fun p hp => ?_
  cases hname : p.1.declared? with
  | none => simp [Form.declaration?, hname]
  | some name =>
    obtain ⟨-, -, params, body, he⟩ := h p hp name hname
    simp [Form.declaration?, hname, he]

/-- All forms of a resolved program are allowed by the library of its scope. -/
theorem ResolvesSequence.allowed {lib : Library} {forms : List Form} {scope final : Scope}
    {exprs : List Expr} (h : ResolvesSequence scope forms exprs final) (hs : scope.Sound lib) :
    ∀ p ∈ forms.zip exprs, lib.Allows p.1 p.2 := by
  induction forms generalizing scope exprs with
  | nil => simp
  | cons f rest ih =>
    cases h with
    | cons first later =>
      rw [List.zip_cons_cons]
      exact List.forall_mem_cons.mpr ⟨first.allowed hs, ih later (hs.scopeAfter first)⟩

/-- Declarations bind no variables. -/
theorem Resolve.symbols_scopeAfter (scope : Scope) (f : Form) (e : Expr) :
    (scopeAfter scope f e).symbols = scope.symbols := by
  unfold scopeAfter
  split <;> rfl

/-- A program binds no variables for what comes after it. -/
theorem Resolve.symbols_of_sequence {scope final : Scope} {forms : List Form} {exprs : List Expr}
    (h : sequence scope forms = .ok (exprs, final)) : final.symbols = scope.symbols := by
  induction forms generalizing scope exprs with
  | nil =>
    cases h
    rfl
  | cons f rest ih =>
    obtain ⟨expr, -, htail⟩ := Fallible.bind_eq_ok.mp h
    obtain ⟨⟨others, last⟩, hrest, hpair⟩ := Fallible.bind_eq_ok.mp htail
    cases hpair
    rw [ih hrest, symbols_scopeAfter]

/-- After a resolved program its declarations stand in front of the functions before it, the last one
first. -/
theorem ResolvesSequence.pairs_eq {forms : List Form} {scope final : Scope} {exprs : List Expr}
    (h : ResolvesSequence scope forms exprs final) :
    final.functions.pairs = (declarations (forms.zip exprs)).reverse ++ scope.functions.pairs := by
  induction forms generalizing scope exprs with
  | nil =>
    cases h
    rfl
  | cons f rest ih =>
    cases h with
    | @cons _ _ _ e others _ first later =>
      rw [ih later, List.zip_cons_cons, declarations, declarations, List.filterMap_cons]
      dsimp only
      rcases first.declared_cases with
        ⟨hnone, hafter⟩ | ⟨name, params, body, hname, hadmits, he, hafter⟩
      · have hdeclares : f.declaration? e = none := by
          rw [Form.declaration?, hnone, Option.bind_none]
        rw [hdeclares, hafter]
      · have hdeclares : f.declaration? e = some (name, .defined name params body) := by
          simp [Form.declaration?, hname, he]
        rw [hdeclares, hafter, hadmits.pairs_withFunction, List.reverse_cons, List.append_assoc]
        rfl

end SwiftForms
