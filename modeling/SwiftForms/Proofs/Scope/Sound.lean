import Mathlib.Data.List.Nodup
import SwiftForms.Proofs.Dict
import SwiftForms.Proofs.Library.Distinct
import SwiftForms.Proofs.Resolve.Derivation

/-!
# Sound scopes

A scope over a library is sound when all builtins are declared in it as the library has them and no
two functions share a name or a Swift identifier. The scope of the library is sound, and binding
variables, declaring what may be declared and resolving a program keep a scope sound.
-/

namespace SwiftForms

namespace Scope

/-- All builtins are declared, no two functions share a name or an identifier, and the reserved
identifiers are those of the library. -/
structure Sound (lib : Library) (scope : Scope) : Prop where
  /-- Every builtin is declared as the library has it. -/
  builtins : ∀ b ∈ lib.builtins, scope.function? b.name = some b.declaration
  /-- No two functions share a name. -/
  names : scope.functions.keys.Nodup
  /-- No two functions share an identifier. -/
  targets : (scope.functions.values.map Declaration.target).Nodup
  /-- The identifiers of the library are reserved. -/
  reserved : scope.reserved = lib.reserved

/-- The scopes that programs over a library are resolved under: that of the library, with variables
bound to it and programs resolved under it. -/
inductive Reachable (lib : Library) : Scope → Prop
  /-- The scope of the library. -/
  | library : Reachable lib (ofLibrary lib)
  /-- Some variables are bound. -/
  | withSymbols {scope : Scope} (names : List Text) (h : Reachable lib scope) :
    Reachable lib (scope.withSymbols names)
  /-- A program is resolved. -/
  | resolve {scope next : Scope} {forms : List Form} {exprs : List Expr} (h : Reachable lib scope)
    (hresolve : SwiftForms.resolve scope forms = .ok (exprs, next)) : Reachable lib next

/-- Builtins with new and different names are declared in front of the functions that are there. -/
theorem pairs_foldl_insert {builtins : List Builtin} {functions : Dict Declaration}
    (hnodup : (builtins.map Builtin.name).Nodup)
    (hnew : ∀ b ∈ builtins, functions.find? b.name = none) :
    (builtins.foldl (fun functions b => functions.insert b.name b.declaration) functions).pairs =
      (builtins.map fun b => (b.name, b.declaration)).reverse ++ functions.pairs := by
  induction builtins generalizing functions with
  | nil => rfl
  | cons b rest ih =>
    obtain ⟨hfirst, hrest⟩ := List.nodup_cons.mp hnodup
    obtain ⟨hb, hlater⟩ := List.forall_mem_cons.mp hnew
    have hstill : ∀ c ∈ rest, (functions.insert b.name b.declaration).find? c.name = none := by
      intro c hc
      have hne : c.name ≠ b.name := fun heq => hfirst (heq ▸ List.mem_map_of_mem hc)
      rw [Dict.find?_insert, if_neg hne, hlater c hc]
    rw [List.foldl_cons, ih hrest hstill, Dict.pairs_insert_of_new _ hb, List.map_cons,
      List.reverse_cons, List.append_assoc]
    rfl

/-- The functions in the scope of a library are its builtins, the last one first. -/
theorem pairs_ofLibrary (lib : Library) :
    (ofLibrary lib).functions.pairs =
      (lib.builtins.map fun b => (b.name, b.declaration)).reverse := by
  have hpairs := pairs_foldl_insert lib.names_nodup fun b _ => Dict.find?_empty b.name
  rw [ofLibrary, hpairs]
  exact List.append_nil _

/-- The scope of a library is sound. -/
theorem sound_ofLibrary (lib : Library) : (ofLibrary lib).Sound lib := by
  have hnames : (ofLibrary lib).functions.keys.Nodup := by
    rw [Dict.keys, pairs_ofLibrary, List.map_reverse, List.map_map, List.nodup_reverse]
    exact lib.names_nodup
  have htargets : ((ofLibrary lib).functions.values.map Declaration.target).Nodup := by
    rw [Dict.values, pairs_ofLibrary, List.map_reverse, List.map_reverse, List.map_map, List.map_map,
      List.nodup_reverse]
    exact lib.targets_nodup
  refine ⟨fun b hb => Dict.find?_of_mem hnames ?_, hnames, htargets, rfl⟩
  rw [pairs_ofLibrary, List.mem_reverse]
  exact List.mem_map_of_mem hb

/-- The functions of a library's scope are its builtins. -/
theorem function?_ofLibrary {lib : Library} {name : Text} {d : Declaration} :
    (ofLibrary lib).function? name = some d ↔
      ∃ b ∈ lib.builtins, b.name = name ∧ d = b.declaration := by
  constructor
  · intro h
    have hmem := Dict.mem_of_find? h
    rw [pairs_ofLibrary, List.mem_reverse] at hmem
    obtain ⟨b, hb, hpair⟩ := List.mem_map.mp hmem
    cases hpair
    exact ⟨b, hb, rfl, rfl⟩
  · rintro ⟨b, hb, rfl, rfl⟩
    exact (sound_ofLibrary lib).builtins b hb

/-- A name calls a function in a library's scope exactly if it leads to a builtin. -/
theorem function?_ofLibrary_eq (lib : Library) (name : Text) :
    (ofLibrary lib).function? name = (lib.named? name).map Builtin.declaration := by
  refine Option.ext fun d => ?_
  rw [function?_ofLibrary, Option.map_eq_some_iff]
  have hcomm : ∀ b : Builtin, d = b.declaration ↔ b.declaration = d := fun b => eq_comm
  simp only [Library.named?_eq_some_iff, and_assoc, hcomm]

namespace Sound

variable {lib : Library} {scope : Scope}

/-- Binding variables keeps a scope sound. -/
theorem withSymbols (h : scope.Sound lib) (names : List Text) :
    (scope.withSymbols names).Sound lib :=
  ⟨h.builtins, h.names, h.targets, h.reserved⟩

/-- Of the functions in a sound scope only one has a given identifier, under one name. -/
theorem eq_of_target (h : scope.Sound lib) {p q : Text × Declaration} (hp : p ∈ scope.functions.pairs)
    (hq : q ∈ scope.functions.pairs) (htarget : p.2.target = q.2.target) : p = q := by
  have hpairs : (scope.functions.pairs.map fun p => p.2.target).Nodup := by
    have htargets := h.targets
    rw [Dict.values, List.map_map] at htargets
    exact htargets
  exact List.inj_on_of_nodup_map hpairs hp hq htarget

end Sound

/-- A declared function is among the functions of its scope. -/
theorem mem_values_of_function? {scope : Scope} {name : Text} {d : Declaration}
    (h : scope.function? name = some d) : d ∈ scope.functions.values :=
  List.mem_map.mpr ⟨(name, d), Dict.mem_of_find? h, rfl⟩

/-- A function that is called by the target of a builtin is that builtin. -/
theorem Sound.eq_declaration {lib : Library} {scope : Scope} (h : scope.Sound lib) {name : Text}
    {d : Declaration} (hd : scope.function? name = some d) {b : Builtin} (hb : b ∈ lib.builtins)
    (htarget : b.target = d.target) : d = b.declaration := by
  have hpair := h.eq_of_target (Dict.mem_of_find? hd) (Dict.mem_of_find? (h.builtins b hb)) htarget.symm
  exact congrArg Prod.snd hpair

/-- Declaring a name that may be declared puts a function in front of the others. -/
theorem Admits.pairs_withFunction {scope : Scope} {name : Text} (ha : scope.Admits name)
    (d : Declaration) :
    (scope.withFunction name d).functions.pairs = (name, d) :: scope.functions.pairs :=
  Dict.pairs_insert_of_new d ha.newName

/-- Declaring a name that may be declared keeps a scope sound. -/
theorem Sound.withFunction {lib : Library} {scope : Scope} {name : Text} (h : scope.Sound lib)
    (ha : scope.Admits name) {d : Declaration} (hd : d.target = Identifier.ofName name) :
    (scope.withFunction name d).Sound lib := by
  have hpairs := ha.pairs_withFunction d
  refine ⟨?_, ?_, ?_, h.reserved⟩
  · intro b hb
    have hbuiltin := h.builtins b hb
    have hne : b.name ≠ name := by
      intro heq
      have hnone := ha.newName
      rw [← heq, hbuiltin] at hnone
      cases hnone
    rw [function?, Scope.withFunction, Dict.find?_insert, if_neg hne]
    exact hbuiltin
  · rw [Dict.keys, hpairs, List.map_cons]
    exact List.nodup_cons.mpr ⟨Dict.not_mem_keys_of_find? ha.newName, h.names⟩
  · rw [Dict.values, hpairs, List.map_cons, List.map_cons]
    refine List.nodup_cons.mpr ⟨?_, h.targets⟩
    intro hmem
    obtain ⟨other, hother, htarget⟩ := List.mem_map.mp hmem
    have hnew := ha.newTarget
    rw [hasTarget, List.any_eq_false] at hnew
    exact hnew other hother (by simpa [hd] using htarget)

/-- The scope inside a declaration is sound. -/
theorem Sound.insideFunction {lib : Library} {scope : Scope} {name : Text} (h : scope.Sound lib)
    (ha : scope.Admits name) (params : List Text) : (scope.insideFunction name params).Sound lib :=
  (h.withSymbols params).withFunction ⟨ha.notSpecial, ha.newName, ha.newTarget, ha.unreserved⟩ rfl

end Scope

/-- Only a declaration changes the scope. -/
theorem Resolve.scopeAfter_of_ne_define {scope : Scope} {f : Form} {e : Expr}
    (h : ∀ target params body, e ≠ .define target params body) : scopeAfter scope f e = scope := by
  unfold scopeAfter
  split
  · exact absurd rfl (h _ _ _)
  · rfl

/-- What a resolved form leaves behind: a declaration is added under its name, and anything else
changes nothing. -/
theorem Resolves.scopeAfter_cases {scope : Scope} {f : Form} {e : Expr} (h : Resolves scope f e) :
    (Resolve.scopeAfter scope f e = scope ∧ ∀ target params body, e ≠ .define target params body) ∨
    ∃ (name : Text) (names : List Text) (exprs : List Expr), scope.Admits name ∧
      e = .define (Identifier.ofName name) (names.map Identifier.ofName) exprs ∧
      Resolve.scopeAfter scope f e =
        scope.withFunction name
          ⟨Identifier.ofName name, names.map Identifier.ofName, .forms exprs⟩ := by
  cases h with
  | define special admits spells inside => exact .inr ⟨_, _, _, admits, rfl, rfl⟩
  | _ =>
    left
    constructor
    · exact Resolve.scopeAfter_of_ne_define fun _ _ _ heq => by cases heq
    · intro _ _ _ heq
      cases heq

namespace Scope

/-- A resolved form leaves a sound scope behind. -/
theorem Sound.scopeAfter {lib : Library} {scope : Scope} {f : Form} {e : Expr} (h : scope.Sound lib)
    (hresolves : Resolves scope f e) : (Resolve.scopeAfter scope f e).Sound lib := by
  rcases hresolves.scopeAfter_cases with ⟨hsame, _⟩ | ⟨name, names, exprs, hadmits, _, hafter⟩
  · rw [hsame]
    exact h
  · rw [hafter]
    exact h.withFunction hadmits rfl

/-- A resolved sequence leaves a sound scope behind. -/
theorem Sound.sequence {lib : Library} {forms : List Form} {scope final : Scope} {exprs : List Expr}
    (h : scope.Sound lib) (hresolves : ResolvesSequence scope forms exprs final) :
    final.Sound lib := by
  induction forms generalizing scope exprs with
  | nil =>
    cases hresolves
    exact h
  | cons f rest ih =>
    cases hresolves with
    | cons first later => exact ih (h.scopeAfter first) later

/-- Every scope that programs over a library are resolved under is sound. -/
theorem Reachable.sound {lib : Library} {scope : Scope} (h : Reachable lib scope) :
    scope.Sound lib := by
  induction h with
  | library => exact sound_ofLibrary lib
  | withSymbols names _ ih => exact ih.withSymbols names
  | resolve _ hresolve ih => exact ih.sequence (Resolve.sequence_derivation hresolve)

end Scope

end SwiftForms
