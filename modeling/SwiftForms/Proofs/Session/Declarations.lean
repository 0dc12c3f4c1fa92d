import SwiftForms.Proofs.Resolve.Declarations
import SwiftForms.Proofs.Session.Batch
import SwiftForms.Proofs.Text.Order

/-!
# What a session has declared

A session is used in steps: sources are compiled in it, with or without success, and now and then all
declarations are forgotten. What has been accepted since they were last forgotten makes up a program.
Main statement: after any steps the session knows the builtins as the library has them, and besides
them exactly the functions that the forms of this program declare, with the bodies that they had when
they were accepted. All functions are called by different identifiers, and none of the program's
functions has a name or an identifier that it must not have.
-/

namespace SwiftForms

namespace Session

/-- What is done in a session. -/
inductive Step where
  /-- A source is compiled. -/
  | compile (source : Text)
  /-- All declarations are forgotten. -/
  | reset

/-- The forms of a source that compiles in a session, each with the expression that it stands for
there. A source that fails has none. -/
def accepted (s : Session) (source : Text) : List (Form × Expr) :=
  match (s.compile source).1, read source with
  | .ok _, .ok forms =>
    match resolve s.scope forms with
    | .ok (exprs, _) => forms.zip exprs
    | .error _ => []
  | _, _ => []

/-- A session and the program that it has accepted since its declarations were last forgotten. -/
structure Record where
  /-- The session. -/
  session : Session
  /-- The forms that were accepted, each with the expression that it stood for. -/
  program : List (Form × Expr)

namespace Record

/-- A session in which nothing has been done. -/
def start (lib : Library) : Record :=
  ⟨.start lib, []⟩

/-- A session after a step. -/
def after (r : Record) : Step → Record
  | .compile source => ⟨(r.session.compile source).2, r.program ++ r.session.accepted source⟩
  | .reset => ⟨r.session.reset, []⟩

/-- A session after steps one after another. -/
def run (r : Record) : List Step → Record
  | [] => r
  | step :: rest => (r.after step).run rest

/-- The names that the forms of the program declare. -/
def names (r : Record) : List Text :=
  r.program.filterMap fun p => p.1.declared?

/-- The functions of a session are the declarations of its program in front of the builtins. -/
structure Sound (lib : Library) (r : Record) : Prop where
  /-- The library of the session. -/
  library : r.session.library = lib
  /-- No variable is bound. -/
  symbols : r.session.scope.symbols = []
  /-- The scope is sound. -/
  scope : r.session.scope.Sound lib
  /-- The functions, the last one first. -/
  pairs : r.session.scope.functions.pairs =
    (declarations r.program).reverse ++ (Scope.ofLibrary lib).functions.pairs
  /-- The library allows the program. -/
  allowed : ∀ p ∈ r.program, lib.Allows p.1 p.2

variable {lib : Library} {r : Record}

/-- A session in which nothing has been done has the builtins only. -/
theorem sound_start (lib : Library) : (start lib).Sound lib :=
  ⟨rfl, rfl, Scope.sound_ofLibrary lib, rfl, List.forall_mem_nil _⟩

/-- A source that compiles adds its declarations, and one that fails adds nothing. -/
theorem Sound.compile (h : r.Sound lib) (source : Text) : (r.after (.compile source)).Sound lib := by
  cases hcompile : compileUnder r.session.library r.session.scope source with
  | error e =>
    have hfailed := compile_of_error hcompile
    have hnone : r.session.accepted source = [] := by
      simp [accepted, hfailed]
    simp only [after, hfailed, hnone, List.append_nil]
    exact h
  | ok pair =>
    obtain ⟨swift, next⟩ := pair
    obtain ⟨forms, exprs, hread, hresolve, -⟩ := compileUnder_eq_ok.mp hcompile
    have hdone := compile_of_ok hcompile
    have haccepted : r.session.accepted source = forms.zip exprs := by
      simp [accepted, hdone, hread, hresolve]
    have hsequence := Resolve.sequence_derivation hresolve
    have hpairs : next.functions.pairs =
        (declarations (r.program ++ forms.zip exprs)).reverse ++
          (Scope.ofLibrary lib).functions.pairs := by
      rw [hsequence.pairs_eq, h.pairs, declarations_append, List.reverse_append, List.append_assoc]
    have hallowed : ∀ p ∈ r.program ++ forms.zip exprs, lib.Allows p.1 p.2 :=
      List.forall_mem_append.mpr ⟨h.allowed, hsequence.allowed h.scope⟩
    simp only [after, hdone, haccepted]
    exact ⟨h.library, (Resolve.symbols_of_sequence hresolve).trans h.symbols,
      h.scope.sequence hsequence, hpairs, hallowed⟩

/-- One step keeps a record sound. -/
theorem Sound.after (h : r.Sound lib) (step : Step) : (r.after step).Sound lib := by
  cases step with
  | compile source => exact h.compile source
  | reset =>
    have hlibrary := h.library
    subst hlibrary
    exact sound_start r.session.library

/-- Steps one after another keep a record sound. -/
theorem Sound.run (h : r.Sound lib) (steps : List Step) : (r.run steps).Sound lib := by
  induction steps generalizing r with
  | nil => exact h
  | cons step rest ih => exact ih (h.after step)

/-- The names of all functions are those of the program and those of the builtins. -/
theorem Sound.keys_perm (h : r.Sound lib) :
    r.session.scope.functions.keys.Perm (r.names ++ lib.builtins.map Builtin.name) := by
  have hbuiltins : (Scope.ofLibrary lib).functions.pairs.map Prod.fst =
      (lib.builtins.map Builtin.name).reverse := by
    rw [Scope.pairs_ofLibrary, List.map_reverse, List.map_map]
    rfl
  rw [Dict.keys, h.pairs, List.map_append, hbuiltins, List.map_reverse,
    map_fst_declarations h.allowed]
  exact (List.reverse_perm _).append (List.reverse_perm _)

/-- No function of the program has the name of a builtin. -/
theorem Sound.named?_of_mem_names (h : r.Sound lib) {name : Text} (hname : name ∈ r.names) :
    lib.named? name = none := by
  have hnodup := h.keys_perm.nodup_iff.mp h.scope.names
  rw [Library.named?_eq_none_iff]
  intro hbuiltin
  exact List.disjoint_of_nodup_append hnodup hname hbuiltin

/-- A function that is no builtin is one that the program declares. -/
theorem Sound.function?_eq_some_iff (h : r.Sound lib) {name : Text} {d : Declaration}
    (hname : lib.named? name = none) :
    r.session.scope.function? name = some d ↔ (name, d) ∈ declarations r.program := by
  have hbuiltin : (name, d) ∉ (Scope.ofLibrary lib).functions.pairs := by
    intro hmem
    rw [Scope.pairs_ofLibrary, List.mem_reverse] at hmem
    obtain ⟨b, hb, hpair⟩ := List.mem_map.mp hmem
    cases hpair
    exact Library.named?_eq_none_iff.mp hname (List.mem_map_of_mem hb)
  have hpairs : (name, d) ∈ r.session.scope.functions.pairs ↔
      (name, d) ∈ declarations r.program := by
    rw [h.pairs, List.mem_append, List.mem_reverse]
    exact or_iff_left hbuiltin
  rw [← hpairs]
  exact ⟨Dict.mem_of_find?, Dict.find?_of_mem h.scope.names⟩

/-- What the program declares are functions with bodies, under names that may be declared. -/
theorem Sound.of_mem_declarations (h : r.Sound lib) {name : Text} {d : Declaration}
    (hd : (name, d) ∈ declarations r.program) :
    SpecialForm.ofName? name = none ∧ lib.isReserved (Identifier.ofName name) = false ∧
      ∃ f params body, (f, (Declaration.defined name params body).toExpr) ∈ r.program ∧
        f.declared? = some name ∧ d = .defined name params body := by
  obtain ⟨f, e, hmem, hname, he⟩ := mem_declarations.mp hd
  obtain ⟨hspecial, hreserved, params, body, rfl⟩ := h.allowed (f, e) hmem name hname
  rw [Declaration.declaration?_toExpr, Option.some.injEq] at he
  exact ⟨hspecial, hreserved, f, params, body, hmem, hname, he.symm⟩

/-- What a session knows after it has accepted a program over a library. -/
structure Described (lib : Library) (r : Record) : Prop where
  /-- No variable is bound. -/
  symbols : r.session.scope.symbols = []
  /-- Every builtin is declared with its target, its parameters and its implementation. -/
  builtins : ∀ b ∈ lib.builtins,
    r.session.scope.function? b.name = some ⟨b.target, b.params, .external (some b.native)⟩
  /-- The other functions are those that the forms of the program declare, each with the target, the
  parameters and the body of the expression that its form stood for. -/
  others : ∀ name d, lib.named? name = none →
    (r.session.scope.function? name = some d ↔
      ∃ f body, (f, .define d.target d.params body) ∈ r.program ∧ f.declared? = some name ∧
        d.body = .forms body)
  /-- Functions with different names have different targets. -/
  targets : ∀ name other d e, r.session.scope.function? name = some d →
    r.session.scope.function? other = some e → d.target = e.target → name = other
  /-- A function that is no builtin has no reserved target and not the name of a special form. -/
  admissible : ∀ name d, lib.named? name = none → r.session.scope.function? name = some d →
    lib.isReserved d.target = false ∧ SpecialForm.ofName? name = none
  /-- The functions that are said to be declared in the session are those of the program, in order. -/
  declared : Text.Sorts r.session.declared r.names
  /-- All functions are those of the program and the builtins, in order. -/
  functions : Text.Sorts r.session.functions (r.names ++ lib.builtins.map Builtin.name)

/-- The names that the session says it has declared are those of the program, in order. -/
theorem Sound.sorts_declared (h : r.Sound lib) : Text.Sorts r.session.declared r.names := by
  have hsorts := ((Text.sorts_sort r.session.scope.functions.keys).of_perm h.keys_perm).filter
    fun name => (lib.named? name).isNone
  have hown : r.names.filter (fun name => (lib.named? name).isNone) = r.names := by
    refine List.filter_eq_self.mpr fun name hname => ?_
    rw [h.named?_of_mem_names hname, Option.isNone_none]
  have hbuiltin : (lib.builtins.map Builtin.name).filter (fun name => (lib.named? name).isNone) = [] := by
    refine List.filter_eq_nil_iff.mpr fun name hname hnone => ?_
    exact Library.named?_eq_none_iff.mp (Option.isNone_iff_eq_none.mp hnone) hname
  rw [List.filter_append, hown, hbuiltin, List.append_nil] at hsorts
  rw [declared, h.library]
  exact hsorts

/-- After any steps a session knows the builtins, and besides them the functions of the program that
it has accepted since its declarations were last forgotten, and no others. -/
theorem run_described (lib : Library) (steps : List Step) :
    ((start lib).run steps).Described lib := by
  have h := (sound_start lib).run steps
  refine ⟨h.symbols, h.scope.builtins, ?_, ?_, ?_, h.sorts_declared,
    (Text.sorts_sort _).of_perm h.keys_perm⟩
  · intro name d hname
    rw [h.function?_eq_some_iff hname]
    constructor
    · intro hd
      obtain ⟨-, -, f, params, body, hmem, hf, rfl⟩ := h.of_mem_declarations hd
      exact ⟨f, body, hmem, hf, rfl⟩
    · rintro ⟨f, body, hmem, hf, hbody⟩
      obtain ⟨target, params, _⟩ := d
      cases hbody
      exact mem_declarations.mpr ⟨f, _, hmem, hf, rfl⟩
  · intro name other d e hd he htarget
    have hpair := h.scope.eq_of_target (Dict.mem_of_find? hd) (Dict.mem_of_find? he) htarget
    exact congrArg Prod.fst hpair
  · intro name d hname hd
    have hdeclared := (h.function?_eq_some_iff hname).mp hd
    obtain ⟨hspecial, hreserved, f, params, body, -, -, rfl⟩ := h.of_mem_declarations hdeclared
    exact ⟨hreserved, hspecial⟩

end Record

end Session

end SwiftForms
