import SwiftForms.Proofs.Resolve.Declarations

/-!
# Resolving under a larger scope

A scope may hold more functions than the one that a program was resolved under. Main statement: under
the larger scope the program resolves to the very same expressions, unless one of its declarations,
at any depth, clashes with one of the functions added. Nothing else can go wrong, since a call finds
the function that it found before, and a name that may not be declared for another reason could not
be declared before either.
-/

namespace SwiftForms

/-- A scope and a larger one: the same variables and reserved identifiers, all functions of the
smaller scope, and besides them only functions with these names, called by the identifiers of their
names. -/
structure Scope.Within (added : List Text) (scope larger : Scope) : Prop where
  /-- The same variables are bound. -/
  symbols : larger.symbols = scope.symbols
  /-- The same identifiers are reserved. -/
  reserved : larger.reserved = scope.reserved
  /-- A function of the smaller scope is the same in the larger one. -/
  keeps : ∀ name d, scope.function? name = some d → larger.function? name = some d
  /-- Any other function of the larger scope has one of the names. -/
  adds : ∀ name d, (name, d) ∈ larger.functions.pairs →
    (name, d) ∈ scope.functions.pairs ∨ name ∈ added ∧ d.target = Identifier.ofName name

/-- An error on a declared name that has the identifier of one of these names. -/
structure ResolveError.Clash (added : List Text) (e : ResolveError) : Prop where
  /-- The cause is that the function exists already. -/
  fault : e.fault = .alreadyExists
  /-- The name clashes with one of these. -/
  name : ∃ other ∈ added, Identifier.ofName other = Identifier.ofName e.name

/-- A resolution that gives a result with a property, or is stopped by a clash. -/
inductive GivesOrClashes {α : Type} (added : List Text) (P : α → Prop) : Except ResolveError α → Prop
  /-- There is a result. -/
  | gives {a : α} (holds : P a) : GivesOrClashes added P (.ok a)
  /-- A name clashes. -/
  | clashes {e : ResolveError} (clash : e.Clash added) : GivesOrClashes added P (.error e)

namespace GivesOrClashes

variable {α β : Type} {added : List Text} {P : α → Prop} {Q : β → Prop}

/-- Two steps give a result or clash if the first one does and the second one does on its results. -/
theorem bind {x : Except ResolveError α} {f : α → Except ResolveError β}
    (h : GivesOrClashes added P x) (hf : ∀ a, x = .ok a → P a → GivesOrClashes added Q (f a)) :
    GivesOrClashes added Q (x >>= f) := by
  cases h with
  | gives holds => exact hf _ rfl holds
  | clashes clash => exact .clashes clash

/-- A step with a known result is followed by the rest. -/
theorem bind_ok {x : Except ResolveError α} {a : α} {f : α → Except ResolveError β}
    (h : x = .ok a) (hf : GivesOrClashes added Q (f a)) : GivesOrClashes added Q (x >>= f) := by
  rw [h]
  exact hf

/-- A step with one possible result is followed by the rest. -/
theorem bind_eq {x : Except ResolveError α} {a : α} {f : α → Except ResolveError β}
    (h : GivesOrClashes added (· = a) x) (hf : GivesOrClashes added Q (f a)) :
    GivesOrClashes added Q (x >>= f) :=
  h.bind fun _ _ ha => ha ▸ hf

end GivesOrClashes

namespace Scope.Within

variable {added : List Text} {scope larger : Scope}

/-- More variables may be bound in both scopes. -/
theorem withSymbols (h : Within added scope larger) (names : List Text) :
    Within added (scope.withSymbols names) (larger.withSymbols names) :=
  ⟨congrArg (names ++ ·) h.symbols, h.reserved, h.keeps, h.adds⟩

/-- A function may be declared in both scopes. -/
theorem withFunction (h : Within added scope larger) {name : Text} (hs : scope.Admits name)
    (hl : larger.Admits name) (d : Declaration) :
    Within added (scope.withFunction name d) (larger.withFunction name d) := by
  refine ⟨h.symbols, h.reserved, ?_, ?_⟩
  · intro other found hfound
    simp only [function?, Scope.withFunction, Dict.find?_insert] at hfound ⊢
    by_cases heq : other = name
    · rw [if_pos heq] at hfound ⊢
      exact hfound
    · rw [if_neg heq] at hfound ⊢
      exact h.keeps other found hfound
  · intro other found hmem
    rw [hl.pairs_withFunction] at hmem
    rw [hs.pairs_withFunction]
    rcases List.mem_cons.mp hmem with heq | hrest
    · exact .inl (heq ▸ List.mem_cons_self)
    · exact (h.adds other found hrest).imp (List.mem_cons_of_mem _) id

/-- The scopes inside a declaration that both scopes admit. -/
theorem insideFunction (h : Within added scope larger) {name : Text} (hs : scope.Admits name)
    (hl : larger.Admits name) (params : List Text) :
    Within added (scope.insideFunction name params) (larger.insideFunction name params) :=
  (h.withSymbols params).withFunction ⟨hs.notSpecial, hs.newName, hs.newTarget, hs.unreserved⟩
    ⟨hl.notSpecial, hl.newName, hl.newTarget, hl.unreserved⟩ _

/-- The scopes after a form that resolves to the same expression under both of them. -/
theorem scopeAfter (h : Within added scope larger) {f : Form} {e : Expr} (hs : Resolves scope f e)
    (hl : Resolves larger f e) :
    Within added (Resolve.scopeAfter scope f e) (Resolve.scopeAfter larger f e) := by
  rcases hs.declared_cases with ⟨hnone, hafter⟩ | ⟨name, params, body, hname, hadmits, he, hafter⟩
  · rw [hafter, hafter]
    exact h
  · have hlarger : larger.Admits name := by
      rcases hl.declared_cases with ⟨hnone, _⟩ | ⟨other, _, _, hother, hadmits', _, _⟩
      · exact absurd (hnone.symm.trans hname) (Option.some_ne_none name).symm
      · exact Option.some.inj (hother.symm.trans hname) ▸ hadmits'
    rw [hafter, hafter]
    exact h.withFunction hadmits hlarger _

/-- A name that the smaller scope admits and that has no identifier of the names added is admitted by
the larger scope too; otherwise it clashes. -/
theorem requireNew (h : Within added scope larger) {name : Text} (ha : scope.Admits name)
    (pos : Position) :
    GivesOrClashes added (fun _ => larger.Admits name) (Resolve.requireNew larger name pos) := by
  have hspecial : (SpecialForm.ofName? name).isSome = false := by rw [ha.notSpecial]; rfl
  have hreserved : larger.isReserved (Identifier.ofName name) = false := by
    rw [isReserved, h.reserved]
    exact ha.unreserved
  -- Either way the function that is found cannot be one of the smaller scope.
  have hname : ∀ d, larger.function? name = some d → name ∈ added := by
    intro d hd
    have hold := Dict.not_mem_keys_of_find? ha.newName
    rcases h.adds name d (Dict.mem_of_find? hd) with hmem | ⟨hadded, _⟩
    · exact absurd (List.mem_map_of_mem hmem) hold
    · exact hadded
  have htarget : larger.hasTarget (Identifier.ofName name) = true →
      ∃ other ∈ added, Identifier.ofName other = Identifier.ofName name := by
    intro hlarger
    obtain ⟨d, hd, hsame⟩ := List.any_eq_true.mp hlarger
    obtain ⟨⟨other, _⟩, hpair, rfl⟩ := List.mem_map.mp hd
    have hsame' := of_decide_eq_true hsame
    rcases h.adds other _ hpair with hmem | ⟨hadded, hother⟩
    · have hold := List.any_eq_false.mp ha.newTarget _ (List.mem_map_of_mem hmem)
      exact absurd hsame hold
    · exact ⟨other, hadded, hother.symm.trans hsame'⟩
  unfold Resolve.requireNew
  rw [hspecial, hreserved]
  cases hfound : larger.function? name with
  | some d => exact .clashes ⟨rfl, name, hname d hfound, rfl⟩
  | none =>
    cases hlarger : larger.hasTarget (Identifier.ofName name) with
    | true => exact .clashes ⟨rfl, htarget hlarger⟩
    | false => exact .gives ⟨ha.notSpecial, hfound, hlarger, hreserved⟩

end Scope.Within

namespace Resolve

/-- What is no special form is not refused as a value. -/
theorem requireValue_of_not_isSpecial {f : Form} (h : f.isSpecial = false) :
    requireValue f = .ok () := by
  rw [requireValue, h]
  rfl

/-- Words with different identifiers that were not seen before give their names. -/
theorem distinctNames_of_spells {forms : List Form} {names : List Text} (h : Spells forms names)
    (fault : ResolveFault) (owner : List Form) {seen : List Text}
    (hseen : ∀ name ∈ names, Identifier.ofName name ∉ seen) :
    distinctNames fault owner seen forms = .ok names := by
  obtain ⟨hatoms, rfl, hdistinct⟩ := h
  induction forms generalizing seen with
  | nil => rfl
  | cons f rest ih =>
    have hkind := hatoms f List.mem_cons_self
    cases f with
    | group bracket children pos => cases hkind
    | leaf kind name pos =>
      cases hkind
      rw [List.map_cons, List.map_cons] at hdistinct
      obtain ⟨hnew, hrest⟩ := List.nodup_cons.mp hdistinct
      have hfirst : Identifier.ofName name ∉ seen := hseen name List.mem_cons_self
      have hlater : ∀ other ∈ rest.map Form.text,
          Identifier.ofName other ∉ Identifier.ofName name :: seen := by
        intro other hother hmem
        rcases List.mem_cons.mp hmem with heq | hold
        · exact hnew (heq ▸ List.mem_map_of_mem hother)
        · exact hseen other (List.mem_cons_of_mem _ hother) hold
      have hatomsRest : ∀ g ∈ rest, g.kind = .leaf .atom := fun g hg =>
        hatoms g (List.mem_cons_of_mem _ hg)
      have hnames := ih hatomsRest hlater hrest
      have hcontains : seen.contains (Identifier.ofName name) = false := by
        simpa using hfirst
      rw [distinctNames, hcontains, hnames]
      rfl

end Resolve

mutual

/-- A form that resolves under a scope resolves to the same expression under a larger one, or
clashes. -/
theorem Resolves.weaken {added : List Text} {scope larger : Scope} (h : scope.Within added larger) :
    ∀ {f : Form} {e : Expr}, Resolves scope f e →
      GivesOrClashes added (· = e) (Resolve.form larger f)
  | _, _, .string => .gives rfl
  | _, _, .number => .gives rfl
  | .leaf .atom name pos, _, .symbol bound => by
    have hbound : larger.hasSymbol name = true := by
      rw [Scope.hasSymbol, h.symbols]
      exact bound
    rw [Resolve.form, if_pos hbound]
    exact .gives rfl
  | _, _, .vector values => by
    rw [Resolve.form]
    exact (values.weaken h).bind_eq (.gives rfl)
  | _, _, .call notSpecial declared arity values => by
    have hlarger := h.keeps _ _ declared
    simp only [Resolve.form, notSpecial, hlarger, arity, if_true]
    exact (values.weaken h).bind_eq (.gives rfl)
  | _, _, .define special admits spells inside => by
    simp only [Resolve.form, special, Resolve.definition]
    refine (h.requireNew admits _).bind fun _ _ hadmits => ?_
    refine .bind_ok (Resolve.distinctNames_of_spells spells _ _ (by simp)) ?_
    have hbody := inside.weaken (h.insideFunction admits hadmits _)
    exact hbody.bind fun _ _ hpair => hpair.1 ▸ .gives rfl
  | _, _, .ifThen special value tested yesBranch => by
    simp only [Resolve.form, special, Resolve.conditional]
    refine .bind_ok (Resolve.requireValue_of_not_isSpecial value) ?_
    exact (tested.weaken h).bind_eq ((yesBranch.weaken h).bind_eq (.gives rfl))
  | _, _, .ifElse special value tested yesBranch noBranch => by
    simp only [Resolve.form, special, Resolve.conditional]
    refine .bind_ok (Resolve.requireValue_of_not_isSpecial value) ?_
    refine (tested.weaken h).bind_eq ((yesBranch.weaken h).bind_eq ?_)
    exact (noBranch.weaken h).bind_eq (.gives rfl)
  | _, _, .bind special spells values inside => by
    simp only [Resolve.form, special, Resolve.binding, values.length_even, if_true]
    refine .bind_ok (Resolve.distinctNames_of_spells spells _ _ (by simp)) ?_
    refine (values.weaken (h.withSymbols _)).bind_eq ?_
    have hbody := inside.weaken (h.withSymbols _)
    exact hbody.bind fun _ _ hpair => hpair.1 ▸ .gives rfl
  | _, _, .sequence special inside => by
    simp only [Resolve.form, special]
    exact (inside.weaken h).bind_eq (.gives rfl)

/-- Values resolve to the same expressions under a larger scope, or clash. -/
theorem ResolvesValues.weaken {added : List Text} {scope larger : Scope}
    (h : scope.Within added larger) :
    ∀ {forms : List Form} {exprs : List Expr}, ResolvesValues scope forms exprs →
      GivesOrClashes added (· = exprs) (Resolve.values larger forms)
  | _, _, .nil => .gives rfl
  | _, _, .cons value first later => by
    rw [Resolve.values]
    refine .bind_ok (Resolve.requireValue_of_not_isSpecial value) ?_
    exact (first.weaken h).bind_eq ((later.weaken h).bind_eq (.gives rfl))

/-- Name and value pairs resolve to the same bindings under a larger scope, or clash. -/
theorem ResolvesBindings.weaken {added : List Text} {scope larger : Scope}
    (h : scope.Within added larger) :
    ∀ {pairs : List Form} {bound : List (Text × Expr)}, ResolvesBindings scope pairs bound →
      GivesOrClashes added (· = bound) (Resolve.bindings larger pairs)
  | _, _, .nil => .gives rfl
  | _, _, .cons value first later => by
    rw [Resolve.bindings]
    refine .bind_ok (Resolve.requireValue_of_not_isSpecial value) ?_
    exact (first.weaken h).bind_eq ((later.weaken h).bind_eq (.gives rfl))

/-- Statements resolve to the same expressions under a larger scope, or clash. -/
theorem ResolvesStatements.weaken {added : List Text} {scope larger : Scope}
    (h : scope.Within added larger) :
    ∀ {forms : List Form} {exprs : List Expr}, ResolvesStatements scope forms exprs →
      GivesOrClashes added (· = exprs) (Resolve.statements larger forms)
  | _, _, .nil => .gives rfl
  | _, _, .cons first later => by
    rw [Resolve.statements]
    exact (first.weaken h).bind_eq ((later.weaken h).bind_eq (.gives rfl))

/-- A sequence resolves to the same expressions under a larger scope, and the scope that it leaves is
larger by the same functions, or it clashes. -/
theorem ResolvesSequence.weaken {added : List Text} {scope larger : Scope}
    (h : scope.Within added larger) :
    ∀ {forms : List Form} {exprs : List Expr} {final : Scope},
      ResolvesSequence scope forms exprs final →
      GivesOrClashes added (fun pair => pair.1 = exprs ∧ final.Within added pair.2)
        (Resolve.sequence larger forms)
  | _, _, _, .nil => .gives ⟨rfl, h⟩
  | f :: rest, e :: others, final, .cons first later => by
    rw [Resolve.sequence]
    refine (first.weaken h).bind fun e' hform he => ?_
    subst he
    -- The scopes after the form are compared through its derivation under the larger scope.
    have hafter := h.scopeAfter first (Resolve.form_derivation hform)
    exact (later.weaken hafter).bind fun _ _ hpair => .gives ⟨congrArg _ hpair.1, hpair.2⟩

end

end SwiftForms
