import SwiftForms.Proofs.Resolve.Closed
import SwiftForms.Proofs.Resolve.Uses

/-!
# Captured variables

A name refers to the innermost variable around it that has that name, in a source as in Swift. Different
names may have one spelling, and only the names of one vector are checked against each other. Main
statement: the spelling of a used variable refers to the spelling of that variable, unless a vector further
inside has another name with the same spelling, and then it refers to another variable.
-/

namespace SwiftForms

namespace Frame

/-- The place of a variable among those of a frame. -/
def place? (name : Text) (frame : Frame) : Option Nat :=
  frame.names.idxOf? name

/-- The variable that a name refers to: the number of frames inside its vector, and its place in the
vector. -/
def bound? (name : Text) (around : List Frame) : Option (Nat × Nat) :=
  innermost (place? name) around

/-- A frame has no variable of a name that is not among its names. -/
theorem place?_eq_none_iff {name : Text} {frame : Frame} :
    frame.place? name = none ↔ name ∉ frame.names :=
  List.idxOf?_eq_none_iff

/-- Where names have different spellings, the spelling of a name stands where the name stands. -/
theorem place?_spelled {name : Text} {frame : Frame} {index : Nat}
    (hdistinct : (frame.names.map Identifier.ofName).Nodup) (hplace : frame.place? name = some index) :
    frame.spelled.place? (Identifier.ofName name) = some index := by
  obtain ⟨hlt, hname, -⟩ := List.idxOf?_eq_some_iff.mp hplace
  have hlength : index < (frame.names.map Identifier.ofName).length := by
    rw [List.length_map]
    exact hlt
  have hspelled : (frame.names.map Identifier.ofName)[index] = Identifier.ofName name := by
    rw [List.getElem_map, hname]
  refine List.idxOf?_eq_some_iff.mpr ⟨hlength, hspelled, fun earlier hearlier heq => ?_⟩
  have hsame := (List.getElem_inj hdistinct).mp (heq.trans hspelled.symm)
  omega

/-- The spelling of a name refers to the variable that the name refers to if no vector inside captures
it. -/
theorem bound?_spelled_iff {around : List Frame} {name : Text} {depth index : Nat}
    (hdistinct : ∀ frame ∈ around, (frame.names.map Identifier.ofName).Nodup)
    (hname : bound? name around = some (depth, index)) :
    bound? (Identifier.ofName name) (around.map spelled) = some (depth, index) ↔
      ¬ Binds (around.take depth) (Identifier.ofName name) := by
  obtain ⟨⟨frame, hframe, hplace⟩, -⟩ := innermost_eq_some_iff.mp hname
  have hspelled : frame.spelled.place? (Identifier.ofName name) = some index :=
    place?_spelled (hdistinct frame (List.mem_of_getElem? hframe)) hplace
  have hfound : ∃ found, around[depth]? = some found ∧
      found.spelled.place? (Identifier.ofName name) = some index := ⟨frame, hframe, hspelled⟩
  have hothers : (∀ inside ∈ around.take depth,
      inside.spelled.place? (Identifier.ofName name) = none) ↔
        ¬ Binds (around.take depth) (Identifier.ofName name) := by
    simp [place?_eq_none_iff, spelled, Binds]
  rw [bound?, innermost_map, innermost_eq_some_iff, ← hothers]
  exact and_iff_right hfound

end Frame

/-- A bound name refers to some variable. -/
theorem Scope.Framed.exists_bound? {lib : Library} {around : List Frame} {scope : Scope}
    (h : Framed lib around scope) {name : Text} (hbound : scope.hasSymbol name = true) :
    ∃ depth index, Frame.bound? name around = some (depth, index) := by
  have hmem : name ∈ around.flatMap Frame.names := by
    rw [← h.symbols]
    exact List.contains_iff_mem.mp hbound
  obtain ⟨frame, hframe, hname⟩ := List.mem_flatMap.mp hmem
  cases hfound : Frame.bound? name around with
  | some found => exact ⟨found.1, found.2, rfl⟩
  | none =>
    have hnone := Frame.innermost_eq_none_iff.mp hfound frame hframe
    exact absurd hname (Frame.place?_eq_none_iff.mp hnone)

/-- Every use of a variable in a resolved program is the use of a name in its source, which refers to some
variable there. The spelling of the name refers to the spelling of that variable if and only if no vector
inside that of the variable has a name with the same spelling. -/
theorem resolve_captured_iff {lib : Library} {forms : List Form} {exprs : List Expr} {next : Scope}
    (hresolve : resolve (.ofLibrary lib) forms = .ok (exprs, next)) :
    List.Forall₂
      (fun use spelled => spelled.around = use.around.map Frame.spelled ∧
        ∀ name, use.usage = .value name → spelled.usage = .value (Identifier.ofName name) ∧
          ∃ depth index, Frame.bound? name use.around = some (depth, index) ∧
            (Frame.bound? (Identifier.ofName name) spelled.around = some (depth, index) ↔
              ¬ Frame.Binds (use.around.take depth) (Identifier.ofName name)))
      (Form.usesInProgram forms) (Expr.usesInProgram exprs) := by
  refine (resolve_becomes hresolve).imp fun use spelled hbecomes => ?_
  cases hbecomes with
  | call framed declared => exact ⟨rfl, fun name hname => Usage.noConfusion hname⟩
  | test framed => exact ⟨rfl, fun name hname => Usage.noConfusion hname⟩
  | value framed bound =>
    refine ⟨rfl, fun name hname => ?_⟩
    cases hname
    obtain ⟨depth, index, hvariable⟩ := framed.exists_bound? bound
    exact ⟨rfl, depth, index, hvariable, Frame.bound?_spelled_iff framed.distinct hvariable⟩

/-- The form of a binding of one variable. -/
def bindForm (name : Text) (value body : Form) : Form :=
  .group .round
    [.leaf .atom "let" default, .group .square [.leaf .atom name default, value] default, body] default

/-- The form of a function of one parameter. -/
def functionForm (name parameter : Text) (body : Form) : Form :=
  .group .round
    [.leaf .atom "defn" default, .leaf .atom name default,
      .group .square [.leaf .atom parameter default] default, body] default

/-- The forms of a function whose parameter is used inside one vector, and again inside another that has
its spelling. -/
def rebinding : List Form :=
  [functionForm "f" "a-b" (bindForm "c" (.leaf .atom "a-b" default)
    (bindForm "a_b" (.leaf .atom "c" default) (.leaf .atom "a-b" default)))]

/-- The expressions that these forms stand for. -/
def rebindingExprs : List Expr :=
  [.define "f" ["a_b"] [.bind [("c", .symbol "a_b")] [.bind [("a_b", .symbol "c")] [.symbol "a_b"]]]]

/-- The first use of the parameter refers to it, and so does its spelling. The last use refers to the
parameter, and its spelling does not. -/
theorem rebinding_captured :
    ∃ next, resolve (.ofLibrary subtraction) rebinding = .ok (rebindingExprs, next) ∧
      Frame.bound? "a_b" [⟨["c"], [], []⟩, ⟨["a_b"], [], []⟩, ⟨[], ["f"], ["f"]⟩] = some (1, 0) ∧
      Frame.bound? "a_b" [⟨["a_b"], [], []⟩, ⟨["c"], [], []⟩, ⟨["a_b"], [], []⟩, ⟨[], ["f"], ["f"]⟩] ≠
        some (2, 0) := by
  have hresolve : ∃ next, resolve (.ofLibrary subtraction) rebinding =
      .ok (rebindingExprs, next) := by
    rw [Scope.ofLibrary, reserved_subtraction]
    exact ⟨_, rfl⟩
  obtain ⟨next, hnext⟩ := hresolve
  have huses := resolve_captured_iff hnext
  obtain ⟨⟨-, hfirst⟩, hlater⟩ := List.forall₂_cons.mp huses
  obtain ⟨-, hlater⟩ := List.forall₂_cons.mp hlater
  obtain ⟨⟨-, hlast⟩, -⟩ := List.forall₂_cons.mp hlater
  have hkept : Frame.bound? "a_b" [⟨["c"], [], []⟩, ⟨["a_b"], [], []⟩, ⟨[], ["f"], ["f"]⟩] =
      some (1, 0) := by
    obtain ⟨-, depth, index, hfound, hiff⟩ := hfirst "a-b" rfl
    cases hfound
    exact hiff.mpr (by decide)
  have hlost : Frame.bound? "a_b"
      [⟨["a_b"], [], []⟩, ⟨["c"], [], []⟩, ⟨["a_b"], [], []⟩, ⟨[], ["f"], ["f"]⟩] ≠ some (2, 0) := by
    obtain ⟨-, depth, index, hfound, hiff⟩ := hlast "a-b" rfl
    cases hfound
    exact fun hsame => hiff.mp hsame (by decide)
  exact ⟨next, hnext, hkept, hlost⟩

/-- The forms of a function that binds the spelling of its parameter, and then uses the parameter. -/
def overspelling : List Form :=
  [functionForm "f" "a-b" (bindForm "a_b" (.leaf .number "1" default) (.leaf .atom "a-b" default))]

/-- The expressions that these forms stand for. -/
def overspellingExprs : List Expr :=
  [.define "f" ["a_b"] [.bind [("a_b", .number "1")] [.symbol "a_b"]]]

/-- The parameter is used in the source, and the bound variable in the program. -/
theorem overspelling_captured :
    ∃ next, resolve (.ofLibrary subtraction) overspelling = .ok (overspellingExprs, next) ∧
      ∃ use ∈ Form.usesInProgram overspelling, use.usage = .value "a-b" ∧
        Frame.bound? "a-b" use.around = some (1, 0) ∧
        Frame.bound? (Identifier.ofName "a-b") (use.around.map Frame.spelled) = some (0, 0) := by
  have hresolve : ∃ next, resolve (.ofLibrary subtraction) overspelling =
      .ok (overspellingExprs, next) := by
    rw [Scope.ofLibrary, reserved_subtraction]
    exact ⟨_, rfl⟩
  obtain ⟨next, hnext⟩ := hresolve
  refine ⟨next, hnext, _, List.mem_cons_self, ?_⟩
  decide

end SwiftForms
