import SwiftForms.Proofs.Fallible
import SwiftForms.Resolve.Basic

/-!
# Derivations of resolved forms

The rules by which forms stand for expressions, one rule for each kind of form, without the errors.
Main statement: whatever resolves has a derivation by these rules. What holds of all resolved programs
is proved by going over the rules.
-/

namespace SwiftForms

open Fallible

/-- A name that may be declared: it heads no special form, no function has it or its identifier, and
its identifier is not reserved. -/
structure Scope.Admits (scope : Scope) (name : Text) : Prop where
  /-- It heads no special form. -/
  notSpecial : SpecialForm.ofName? name = none
  /-- No function has the name. -/
  newName : scope.function? name = none
  /-- No function has the identifier. -/
  newTarget : scope.hasTarget (Identifier.ofName name) = false
  /-- The identifier is not reserved. -/
  unreserved : scope.isReserved (Identifier.ofName name) = false

/-- Forms that are words with these spellings, of which no two have the same identifier. -/
structure Resolve.Spells (forms : List Form) (names : List Text) : Prop where
  /-- The forms are words. -/
  atoms : ∀ f ∈ forms, f.kind = .leaf .atom
  /-- The spellings. -/
  texts : names = forms.map Form.text
  /-- The identifiers are different. -/
  distinct : (names.map Identifier.ofName).Nodup

/-- The scope of the body of a declaration: the parameters are bound, and the function itself is
declared. -/
def Scope.insideFunction (scope : Scope) (name : Text) (params : List Text) : Scope :=
  (scope.withSymbols params).withFunction name
    ⟨Identifier.ofName name, params.map Identifier.ofName, .external (some [])⟩

mutual

/-- A form stands for an expression under a scope. -/
inductive Resolves : Scope → Form → Expr → Prop
  /-- A string stands for itself. -/
  | string {scope text pos} : Resolves scope (.leaf .string text pos) (.string text)
  /-- A number stands for itself. -/
  | number {scope text pos} : Resolves scope (.leaf .number text pos) (.number text)
  /-- A bound name stands for its variable. -/
  | symbol {scope name pos} (bound : scope.hasSymbol name = true) :
    Resolves scope (.leaf .atom name pos) (.symbol (Identifier.ofName name))
  /-- A vector stands for the vector of its values. -/
  | vector {scope items exprs pos} (values : ResolvesValues scope items exprs) :
    Resolves scope (.group .square items pos) (.vector exprs)
  /-- A list that starts with the name of a function is a call. -/
  | call {scope name place args pos d exprs} (notSpecial : SpecialForm.ofName? name = none)
    (declared : scope.function? name = some d) (arity : args.length = d.arity)
    (values : ResolvesValues scope args exprs) :
    Resolves scope (.group .round (.leaf .atom name place :: args) pos) (.call d.target exprs)
  /-- A declaration. -/
  | define {scope head place name namePos params paramsPos body pos names exprs final}
    (special : SpecialForm.ofName? head = some .define) (admits : scope.Admits name)
    (spells : Resolve.Spells params names)
    (inside : ResolvesSequence (scope.insideFunction name names) body exprs final) :
    Resolves scope
      (.group .round
        (.leaf .atom head place :: .leaf .atom name namePos :: .group .square params paramsPos ::
          body) pos)
      (.define (Identifier.ofName name) (names.map Identifier.ofName) exprs)
  /-- A conditional with one branch. -/
  | ifThen {scope head place test yes pos testExpr yesExpr}
    (special : SpecialForm.ofName? head = some .conditional) (value : test.isSpecial = false)
    (tested : Resolves scope test testExpr) (yesBranch : Resolves scope yes yesExpr) :
    Resolves scope (.group .round [.leaf .atom head place, test, yes] pos)
      (.ifThen testExpr yesExpr)
  /-- A conditional with two branches. -/
  | ifElse {scope head place test yes no pos testExpr yesExpr noExpr}
    (special : SpecialForm.ofName? head = some .conditional) (value : test.isSpecial = false)
    (tested : Resolves scope test testExpr) (yesBranch : Resolves scope yes yesExpr)
    (noBranch : Resolves scope no noExpr) :
    Resolves scope (.group .round [.leaf .atom head place, test, yes, no] pos)
      (.ifElse testExpr yesExpr noExpr)
  /-- A binding. -/
  | bind {scope head place pairs pairsPos first body pos names bound exprs final}
    (special : SpecialForm.ofName? head = some .bind)
    (spells : Resolve.Spells (Resolve.pairHeads pairs) names)
    (values : ResolvesBindings (scope.withSymbols names) pairs bound)
    (inside : ResolvesSequence (scope.withSymbols names) (first :: body) exprs final) :
    Resolves scope
      (.group .round (.leaf .atom head place :: .group .square pairs pairsPos :: first :: body) pos)
      (.bind bound exprs)
  /-- Forms one after another that do not see each other's declarations. -/
  | sequence {scope head place body pos exprs}
    (special : SpecialForm.ofName? head = some .sequence)
    (inside : ResolvesStatements scope body exprs) :
    Resolves scope (.group .round (.leaf .atom head place :: body) pos) (.sequence exprs)

/-- Forms stand for values. -/
inductive ResolvesValues : Scope → List Form → List Expr → Prop
  /-- No form, no value. -/
  | nil {scope} : ResolvesValues scope [] []
  /-- A value is no special form. -/
  | cons {scope f rest e others} (value : f.isSpecial = false) (first : Resolves scope f e)
    (later : ResolvesValues scope rest others) : ResolvesValues scope (f :: rest) (e :: others)

/-- Pairs of names and forms stand for bindings. -/
inductive ResolvesBindings : Scope → List Form → List (Text × Expr) → Prop
  /-- No pair, no binding. -/
  | nil {scope} : ResolvesBindings scope [] []
  /-- A value is no special form. -/
  | cons {scope name f rest e others} (value : f.isSpecial = false) (first : Resolves scope f e)
    (later : ResolvesBindings scope rest others) :
    ResolvesBindings scope (name :: f :: rest) ((Identifier.ofName name.text, e) :: others)

/-- Forms stand for statements, all of them under the same scope. -/
inductive ResolvesStatements : Scope → List Form → List Expr → Prop
  /-- No form, no statement. -/
  | nil {scope} : ResolvesStatements scope [] []
  /-- One form after another. -/
  | cons {scope f rest e others} (first : Resolves scope f e)
    (later : ResolvesStatements scope rest others) :
    ResolvesStatements scope (f :: rest) (e :: others)

/-- Forms stand for statements, each of them under the scope that those before it leave. -/
inductive ResolvesSequence : Scope → List Form → List Expr → Scope → Prop
  /-- No form leaves the scope as it is. -/
  | nil {scope} : ResolvesSequence scope [] [] scope
  /-- A form changes the scope for those after it. -/
  | cons {scope f rest e others final} (first : Resolves scope f e)
    (later : ResolvesSequence (Resolve.scopeAfter scope f e) rest others final) :
    ResolvesSequence scope (f :: rest) (e :: others) final

end

/-- As many values as forms are resolved. -/
theorem ResolvesValues.length_eq {scope : Scope} :
    ∀ {forms : List Form} {exprs : List Expr}, ResolvesValues scope forms exprs →
      exprs.length = forms.length
  | _, _, .nil => rfl
  | _, _, .cons _ _ later => congrArg (· + 1) later.length_eq

/-- The identifiers of a binding are those of the names in its pairs. -/
theorem ResolvesBindings.names {scope : Scope} :
    ∀ {pairs : List Form} {bound : List (Text × Expr)}, ResolvesBindings scope pairs bound →
      bound.map Prod.fst = ((Resolve.pairHeads pairs).map Form.text).map Identifier.ofName
  | _, _, .nil => rfl
  | _, _, .cons _ _ later => by
    rw [List.map_cons, later.names]
    rfl

/-- Name and value pairs that resolve are complete. -/
theorem ResolvesBindings.length_even {scope : Scope} :
    ∀ {pairs : List Form} {bound : List (Text × Expr)}, ResolvesBindings scope pairs bound →
      pairs.length % 2 = 0
  | _, _, .nil => rfl
  | _, _, .cons _ _ later => by
    rw [List.length_cons, List.length_cons, Nat.add_assoc, Nat.add_mod_right, later.length_even]

namespace Resolve

/-- What is not refused as a value is no special form. -/
theorem requireValue_eq_ok {f : Form} {u : Unit} (h : requireValue f = .ok u) :
    f.isSpecial = false := by
  unfold requireValue at h
  split at h
  · cases h
  · rename_i hspecial
    exact Bool.eq_false_iff.mpr hspecial

/-- What is not refused as a new name may be declared. -/
theorem requireNew_eq_ok {scope : Scope} {name : Text} {pos : Position} {u : Unit}
    (h : requireNew scope name pos = .ok u) : scope.Admits name := by
  unfold requireNew at h
  split at h
  · cases h
  · rename_i hspecial
    split at h
    · cases h
    · rename_i hexists
      split at h
      · cases h
      · rename_i hreserved
        simp only [Bool.or_eq_true, not_or, Bool.not_eq_true, Option.isSome_eq_false_iff,
          Option.isNone_iff_eq_none] at hspecial hexists hreserved
        exact ⟨hspecial, hexists.1, hexists.2, hreserved⟩

/-- The names of a list are the spellings of its words, and their identifiers are new and different. -/
theorem distinctNames_eq_ok {fault : ResolveFault} {owner forms : List Form} {seen names : List Text}
    (h : distinctNames fault owner seen forms = .ok names) :
    Spells forms names ∧ ∀ name ∈ names, Identifier.ofName name ∉ seen := by
  induction forms generalizing seen names with
  | nil =>
    cases h
    exact ⟨⟨by simp, rfl, List.nodup_nil⟩, by simp⟩
  | cons f rest ih =>
    cases f with
    | group bracket children pos => cases h
    | leaf kind name pos =>
      cases kind with
      | string => cases h
      | number => cases h
      | illegal => cases h
      | atom =>
        rw [distinctNames] at h
        split at h
        · cases h
        · rename_i hseen
          obtain ⟨others, hothers, hnames⟩ := bind_eq_ok.mp h
          cases hnames
          obtain ⟨⟨hatoms, htexts, hdistinct⟩, hnew⟩ := ih hothers
          have hfirst : Identifier.ofName name ∉ others.map Identifier.ofName := by
            intro hmem
            obtain ⟨other, hother, heq⟩ := List.mem_map.mp hmem
            exact hnew other hother (heq ▸ List.mem_cons_self)
          refine ⟨⟨?_, ?_, ?_⟩, ?_⟩
          · intro g hg
            rcases List.mem_cons.mp hg with rfl | hrest
            · rfl
            · exact hatoms g hrest
          · rw [htexts, List.map_cons]
            rfl
          · rw [List.map_cons]
            exact List.nodup_cons.mpr ⟨hfirst, hdistinct⟩
          · intro other hother
            rcases List.mem_cons.mp hother with rfl | hrest
            · simpa using hseen
            · exact fun hmem => hnew other hrest (List.mem_cons_of_mem _ hmem)

mutual

/-- A form that resolves has a derivation. -/
theorem form_derivation {scope : Scope} {e : Expr} :
    ∀ {f : Form}, form scope f = .ok e → Resolves scope f e
  | .leaf .string _ _, h => by
    cases h
    exact .string
  | .leaf .number _ _, h => by
    cases h
    exact .number
  | .leaf .illegal _ _, h => by cases h
  | .leaf .atom name pos, h => by
    rw [form] at h
    split at h
    · rename_i hbound
      cases h
      exact .symbol hbound
    · cases h
  | .group .square items pos, h => by
    rw [form] at h
    obtain ⟨exprs, hvalues, hvector⟩ := bind_eq_ok.mp h
    cases hvector
    exact .vector (values_derivation hvalues)
  | .group .round [] _, h => by cases h
  | .group .round (.group _ _ _ :: _) _, h => by cases h
  | .group .round (.leaf .string _ _ :: _) _, h => by cases h
  | .group .round (.leaf .number _ _ :: _) _, h => by cases h
  | .group .round (.leaf .illegal _ _ :: _) _, h => by cases h
  | .group .round (.leaf .atom name place :: rest) pos, h => by
    simp only [form] at h
    cases hname : SpecialForm.ofName? name with
    | some special =>
      simp only [hname] at h
      cases special with
      | define => exact definition_derivation hname h
      | conditional => exact conditional_derivation hname h
      | bind => exact binding_derivation hname h
      | sequence =>
        obtain ⟨exprs, hstatements, hsequence⟩ := bind_eq_ok.mp h
        cases hsequence
        exact .sequence hname (statements_derivation hstatements)
    | none =>
      simp only [hname] at h
      cases hfunction : scope.function? name with
      | none => simp [hfunction] at h
      | some d =>
        simp only [hfunction] at h
        split at h
        · rename_i harity
          obtain ⟨exprs, hvalues, hcall⟩ := bind_eq_ok.mp h
          cases hcall
          exact .call hname hfunction harity (values_derivation hvalues)
        · cases h

/-- A declaration that resolves has a derivation. -/
theorem definition_derivation {scope : Scope} {e : Expr} {head : Text} {place : Position}
    {whole : List Form} {pos : Position} (hhead : SpecialForm.ofName? head = some .define) :
    ∀ {forms : List Form}, definition scope whole pos forms = .ok e →
      Resolves scope (.group .round (.leaf .atom head place :: forms) pos) e
  | [], h => by cases h
  | .group _ _ _ :: _, h => by cases h
  | .leaf .string _ _ :: _, h => by cases h
  | .leaf .number _ _ :: _, h => by cases h
  | .leaf .illegal _ _ :: _, h => by cases h
  | [.leaf .atom name namePos], h => by
    obtain ⟨_, _, hfault⟩ := bind_eq_ok.mp h
    cases hfault
  | .leaf .atom name namePos :: .leaf _ _ _ :: _, h => by
    obtain ⟨_, _, hfault⟩ := bind_eq_ok.mp h
    cases hfault
  | .leaf .atom name namePos :: .group .round _ _ :: _, h => by
    obtain ⟨_, _, hfault⟩ := bind_eq_ok.mp h
    cases hfault
  | .leaf .atom name namePos :: .group .square params paramsPos :: body, h => by
    obtain ⟨_, hnew, h⟩ := bind_eq_ok.mp h
    obtain ⟨names, hnames, h⟩ := bind_eq_ok.mp h
    obtain ⟨⟨exprs, final⟩, hbody, hdefine⟩ := bind_eq_ok.mp h
    cases hdefine
    exact .define hhead (requireNew_eq_ok hnew) (distinctNames_eq_ok hnames).1
      (sequence_derivation hbody)

/-- A conditional that resolves has a derivation. -/
theorem conditional_derivation {scope : Scope} {e : Expr} {head : Text} {place : Position}
    {whole : List Form} {pos : Position} (hhead : SpecialForm.ofName? head = some .conditional) :
    ∀ {forms : List Form}, conditional scope whole pos forms = .ok e →
      Resolves scope (.group .round (.leaf .atom head place :: forms) pos) e
  | [], h => by cases h
  | [_], h => by cases h
  | [test, yes], h => by
    obtain ⟨_, hvalue, h⟩ := bind_eq_ok.mp h
    obtain ⟨testExpr, htest, h⟩ := bind_eq_ok.mp h
    obtain ⟨yesExpr, hyes, h⟩ := bind_eq_ok.mp h
    cases h
    exact .ifThen hhead (requireValue_eq_ok hvalue) (form_derivation htest) (form_derivation hyes)
  | [test, yes, no], h => by
    obtain ⟨_, hvalue, h⟩ := bind_eq_ok.mp h
    obtain ⟨testExpr, htest, h⟩ := bind_eq_ok.mp h
    obtain ⟨yesExpr, hyes, h⟩ := bind_eq_ok.mp h
    obtain ⟨noExpr, hno, h⟩ := bind_eq_ok.mp h
    cases h
    exact .ifElse hhead (requireValue_eq_ok hvalue) (form_derivation htest) (form_derivation hyes)
      (form_derivation hno)
  | _ :: _ :: _ :: _ :: _, h => by cases h

/-- A binding that resolves has a derivation. -/
theorem binding_derivation {scope : Scope} {e : Expr} {head : Text} {place : Position}
    {whole : List Form} {pos : Position} (hhead : SpecialForm.ofName? head = some .bind) :
    ∀ {forms : List Form}, binding scope whole pos forms = .ok e →
      Resolves scope (.group .round (.leaf .atom head place :: forms) pos) e
  | [], h => by cases h
  | .leaf _ _ _ :: _, h => by cases h
  | .group .round _ _ :: _, h => by cases h
  | [.group .square _ _], h => by cases h
  | .group .square pairs pairsPos :: first :: body, h => by
    simp only [binding] at h
    split at h
    · rename_i heven
      obtain ⟨names, hnames, h⟩ := bind_eq_ok.mp h
      obtain ⟨bound, hbound, h⟩ := bind_eq_ok.mp h
      obtain ⟨⟨exprs, final⟩, hbody, h⟩ := bind_eq_ok.mp h
      cases h
      exact .bind hhead (distinctNames_eq_ok hnames).1 (bindings_derivation heven hbound)
        (sequence_derivation hbody)
    · cases h

/-- Pairs that resolve have a derivation. -/
theorem bindings_derivation {scope : Scope} :
    ∀ {pairs : List Form} {bound : List (Text × Expr)}, pairs.length % 2 = 0 →
      bindings scope pairs = .ok bound → ResolvesBindings scope pairs bound
  | [], _, _, h => by
    cases h
    exact .nil
  | [_], _, heven, _ => by cases heven
  | name :: value :: rest, _, heven, h => by
    obtain ⟨_, hvalue, h⟩ := bind_eq_ok.mp h
    obtain ⟨e, hfirst, h⟩ := bind_eq_ok.mp h
    obtain ⟨others, hrest, h⟩ := bind_eq_ok.mp h
    cases h
    have hrestEven : rest.length % 2 = 0 := by
      simp only [List.length_cons] at heven
      omega
    exact .cons (requireValue_eq_ok hvalue) (form_derivation hfirst)
      (bindings_derivation hrestEven hrest)

/-- Values that resolve have a derivation. -/
theorem values_derivation {scope : Scope} :
    ∀ {forms : List Form} {exprs : List Expr}, values scope forms = .ok exprs →
      ResolvesValues scope forms exprs
  | [], _, h => by
    cases h
    exact .nil
  | value :: rest, _, h => by
    obtain ⟨_, hvalue, h⟩ := bind_eq_ok.mp h
    obtain ⟨e, hfirst, h⟩ := bind_eq_ok.mp h
    obtain ⟨others, hrest, h⟩ := bind_eq_ok.mp h
    cases h
    exact .cons (requireValue_eq_ok hvalue) (form_derivation hfirst) (values_derivation hrest)

/-- Statements that resolve have a derivation. -/
theorem statements_derivation {scope : Scope} :
    ∀ {forms : List Form} {exprs : List Expr}, statements scope forms = .ok exprs →
      ResolvesStatements scope forms exprs
  | [], _, h => by
    cases h
    exact .nil
  | statement :: rest, _, h => by
    obtain ⟨e, hfirst, h⟩ := bind_eq_ok.mp h
    obtain ⟨others, hrest, h⟩ := bind_eq_ok.mp h
    cases h
    exact .cons (form_derivation hfirst) (statements_derivation hrest)

/-- A sequence that resolves has a derivation. -/
theorem sequence_derivation {scope final : Scope} :
    ∀ {forms : List Form} {exprs : List Expr}, sequence scope forms = .ok (exprs, final) →
      ResolvesSequence scope forms exprs final
  | [], _, h => by
    cases h
    exact .nil
  | statement :: rest, _, h => by
    obtain ⟨e, hfirst, h⟩ := bind_eq_ok.mp h
    obtain ⟨⟨others, last⟩, hrest, h⟩ := bind_eq_ok.mp h
    cases h
    exact .cons (form_derivation hfirst) (sequence_derivation hrest)

end

end Resolve

end SwiftForms
