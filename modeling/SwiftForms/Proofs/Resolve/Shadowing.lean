import SwiftForms.Proofs.Resolve.Capture
import SwiftForms.Swift.Render

/-!
# Shadowed functions

Variables and functions have names of their own in a source. In Swift they share one set of identifiers:
an identifier denotes what the innermost block around it introduces by that identifier, and a block has
the functions that it declares anywhere, those inside of sequences among them, in front of its variables.
Main statement: a call denotes the function that the source calls unless a vector inside the block of that
function, or anywhere around the call of a builtin, has a name with the identifier that is called, or the
block declares another function with this identifier; and a conditional tests with the function of the
runtime unless a variable around it, or a function of a block around it, is called as that function is.
-/

namespace SwiftForms

/-- What an identifier may denote. -/
inductive Denotation where
  /-- A variable. -/
  | value
  /-- A function. -/
  | function
  /-- More functions than one, all of the same block. -/
  | several
  deriving DecidableEq, Repr

/-- The function with which conditionals test values. -/
def truthName : Text :=
  "truthy"

example (test : Text) : Stmt.ifHeader test = "if (" ++ truthName ++ "(" ++ test ++ ")) \x7b" :=
  rfl

namespace Frame

/-- What an identifier denotes by the block of a frame. -/
def denotation? (identifier : Text) (frame : Frame) : Option Denotation :=
  if identifier ∈ frame.declared then
    some (if frame.declared.count identifier = 1 then .function else .several)
  else if identifier ∈ frame.names then some .value
  else none

/-- What a name calls by the block of a frame, in the source. -/
def callee? (name : Text) (frame : Frame) : Option Denotation :=
  if name ∈ frame.visible then some .function else none

/-- What an identifier denotes: the number of frames inside the one that introduces it, and what this
introduces. Nothing is denoted by the identifiers from outside the program. -/
def denoted? (identifier : Text) (around : List Frame) : Option (Nat × Denotation) :=
  innermost (denotation? identifier) around

/-- The function of the program that a name calls in the source, by the number of frames inside that of
its block. -/
def called? (name : Text) (around : List Frame) : Option (Nat × Denotation) :=
  innermost (callee? name) around

/-- The frames inside that of a function; all of them if the place does not see the function. -/
def insideOf (name : Text) (around : List Frame) : List Frame :=
  around.takeWhile fun frame => name ∉ frame.visible

/-- The frame of the block that a function stands in. -/
def home? (name : Text) (around : List Frame) : Option Frame :=
  around.find? fun frame => name ∈ frame.visible

/-- The block of a function declares no other one with its identifier. -/
def Alone (name identifier : Text) (around : List Frame) : Prop :=
  ∀ frame ∈ home? name around, frame.spelled.declared.count identifier = 1

instance (name identifier : Text) (around : List Frame) : Decidable (Alone name identifier around) :=
  inferInstanceAs (Decidable (∀ frame ∈ home? name around,
    frame.spelled.declared.count identifier = 1))

/-- Some block among the frames declares a function with an identifier. -/
def Declares (frames : List Frame) (identifier : Text) : Prop :=
  ∃ frame ∈ frames, identifier ∈ frame.declared

/-- The first of the frames may bind an identifier, and so may the others. -/
theorem binds_cons {frame : Frame} {outside : List Frame} {identifier : Text} :
    Binds (frame :: outside) identifier ↔
      identifier ∈ frame.spelled.names ∨ Binds outside identifier := by
  rw [spelled, List.mem_map]
  exact List.exists_mem_cons_iff ..

/-- Where the first frames have nothing, the same is found if the same is found further outside. -/
theorem innermost_cons_eq_iff {α : Type} {find search : Frame → Option α} {frame other : Frame}
    (hfind : find frame = none) (hsearch : search other = none) {outside others : List Frame} :
    innermost find (frame :: outside) = innermost search (other :: others) ↔
      innermost find outside = innermost search others := by
  have hdeeper : Function.Injective fun (depth, found) => ((depth + 1, found) : Nat × α) := by
    intro found later heq
    simpa [Prod.ext_iff] using heq
  rw [innermost_cons_of_none hfind, innermost_cons_of_none hsearch]
  exact (Option.map_injective hdeeper).eq_iff

/-- What is found in a first frame is not found where the first frame has nothing. -/
theorem innermost_cons_ne {α : Type} {find search : Frame → Option α} {frame other : Frame} {found : α}
    (hfind : find frame = some found) (hsearch : search other = none) (outside others : List Frame) :
    innermost find (frame :: outside) ≠ innermost search (other :: others) := by
  rw [innermost_cons_of_some hfind, innermost_cons_of_none hsearch]
  cases innermost search others <;> simp

/-- An identifier denotes the called function if no vector inside its block binds the identifier and the
block declares it once, where the block has the identifier and the blocks inside it have not. -/
theorem denoted?_eq_called?_iff {around : List Frame} {name identifier : Text}
    (hhome : ∀ frame ∈ home? name around, identifier ∈ frame.spelled.declared)
    (hinside : ∀ frame ∈ insideOf name around, identifier ∉ frame.spelled.declared) :
    denoted? identifier (around.map spelled) = called? name around ↔
      ¬ Binds (insideOf name around) identifier ∧ Alone name identifier around := by
  rw [denoted?, called?]
  -- Both searches go outwards. The block of the function ends both; a vector can end only the first.
  induction around with
  | nil => simp [innermost, insideOf, Binds, Alone, home?]
  | cons frame outside ih =>
    rw [List.map_cons]
    by_cases hvisible : name ∈ frame.visible
    · have hfirst : home? name (frame :: outside) = some frame :=
        List.find?_cons_of_pos (decide_eq_true hvisible)
      have hnone : insideOf name (frame :: outside) = [] :=
        List.takeWhile_cons_of_neg (by simpa using hvisible)
      have hcallee : callee? name frame = some .function := if_pos hvisible
      have hdenoted : denotation? identifier frame.spelled =
          some (if frame.spelled.declared.count identifier = 1 then .function else .several) :=
        if_pos (hhome frame hfirst)
      rw [innermost_cons_of_some hcallee, innermost_cons_of_some hdenoted, hnone, Alone, hfirst]
      simp [Binds]
    · have hfirst : home? name (frame :: outside) = home? name outside :=
        List.find?_cons_of_neg (by simpa using hvisible)
      have hcons : insideOf name (frame :: outside) = frame :: insideOf name outside :=
        List.takeWhile_cons_of_pos (by simpa using hvisible)
      have hcallee : callee? name frame = none := if_neg hvisible
      rw [hcons] at hinside
      obtain ⟨hother, hothers⟩ := List.forall_mem_cons.mp hinside
      have houtside := ih (hfirst ▸ hhome) hothers
      rw [hcons, binds_cons, Alone, hfirst]
      by_cases hbinds : identifier ∈ frame.spelled.names
      · have hvalue : denotation? identifier frame.spelled = some .value := by
          rw [denotation?, if_neg hother, if_pos hbinds]
        exact iff_of_false (innermost_cons_ne hvalue hcallee _ _) fun h => h.1 (.inl hbinds)
      · have hnothing : denotation? identifier frame.spelled = none := by
          rw [denotation?, if_neg hother, if_neg hbinds]
        rw [innermost_cons_eq_iff hnothing hcallee, houtside, or_iff_right hbinds, Alone]

/-- An identifier denotes nothing in a program where no vector binds it and no block declares it. -/
theorem denoted?_eq_none_iff {around : List Frame} {identifier : Text} :
    denoted? identifier (around.map spelled) = none ↔
      ¬ Binds around identifier ∧ ¬ Declares (around.map spelled) identifier := by
  have hframe : ∀ frame : Frame, denotation? identifier frame = none ↔
      identifier ∉ frame.names ∧ identifier ∉ frame.declared := by
    intro frame
    rw [denotation?]
    split <;> simp [*]
  have hbinds : (∀ frame ∈ around, identifier ∉ frame.spelled.names) ↔ ¬ Binds around identifier := by
    simp [spelled, Binds]
  have hdeclares : (∀ frame ∈ around, identifier ∉ frame.spelled.declared) ↔
      ¬ Declares (around.map spelled) identifier := by
    simp [Declares]
  rw [denoted?, innermost_map, innermost_eq_none_iff, ← hbinds, ← hdeclares, ← forall₂_and]
  exact forall₂_congr fun frame _ => hframe frame.spelled

end Frame

namespace Scope.Framed

variable {lib : Library} {around : List Frame} {scope : Scope} {name : Text} {d : Declaration}

/-- A function that the place sees is called by the spelling of its name. -/
theorem target_of_sees (h : Framed lib around scope) (hd : scope.function? name = some d)
    (hsees : Frame.Sees around name) : d.target = Identifier.ofName name := by
  have htarget := h.functions name
  rw [hd, Library.targetAround?, if_pos hsees] at htarget
  exact Option.some.inj htarget

/-- A function that the place does not see is a builtin. -/
theorem target_of_not_sees (h : Framed lib around scope) (hd : scope.function? name = some d)
    (hsees : ¬ Frame.Sees around name) : ∃ b ∈ lib.builtins, b.target = d.target := by
  have htarget := h.functions name
  rw [hd, Library.targetAround?, if_neg hsees] at htarget
  obtain ⟨b, hb, hspelled⟩ := Option.map_eq_some_iff.mp htarget.symm
  exact ⟨b, (Library.named?_eq_some_iff.mp hb).1, hspelled⟩

/-- The block of a called function declares its identifier. -/
theorem target_mem_home (h : Framed lib around scope) (hd : scope.function? name = some d) :
    ∀ frame ∈ Frame.home? name around, d.target ∈ frame.spelled.declared := by
  intro frame hframe
  have hmem : frame ∈ around := List.mem_of_find?_eq_some hframe
  have hvisible : name ∈ frame.visible := by simpa using List.find?_some hframe
  rw [h.target_of_sees hd ⟨frame, hmem, hvisible⟩]
  exact List.mem_map_of_mem (h.visible frame hmem hvisible)

/-- The blocks inside that of a called function do not declare its identifier. -/
theorem target_not_mem_inside (h : Framed lib around scope) (hd : scope.function? name = some d) :
    ∀ frame ∈ Frame.insideOf name around, d.target ∉ frame.spelled.declared := by
  intro frame hframe hdeclared
  obtain ⟨other, hother, hspelled⟩ := List.mem_map.mp hdeclared
  have hmem : frame ∈ around := (List.takeWhile_subset _) hframe
  by_cases hsees : Frame.Sees around name
  · -- The frames inside stand before the one that has the function, so they see it outside.
    obtain ⟨home, hhome, hvisible⟩ := hsees
    have hsplit := List.takeWhile_append_dropWhile (p := fun frame => name ∉ frame.visible) (l := around)
    have hafter : home ∈ around.dropWhile fun frame => name ∉ frame.visible := by
      rw [← hsplit] at hhome
      rcases List.mem_append.mp hhome with hbefore | hafter
      · have hnot := List.all_eq_true.mp List.all_takeWhile home hbefore
        exact absurd hvisible (of_decide_eq_true hnot)
      · exact hafter
    have hapart := h.apart
    rw [← hsplit] at hapart
    have hne := (List.pairwise_append.mp hapart).2.2 frame hframe home hafter other hother name hvisible
    exact hne (hspelled.trans (h.target_of_sees hd ⟨home, hhome, hvisible⟩))
  · obtain ⟨b, hb, htarget⟩ := h.target_of_not_sees hd hsees
    exact (h.free frame hmem other hother).builtins b hb (htarget.trans hspelled.symm)

/-- The blocks declare no reserved identifier. -/
theorem not_declares (h : Framed lib around scope) {identifier : Text}
    (hreserved : lib.isReserved identifier = true) :
    ¬ Frame.Declares (around.map Frame.spelled) identifier := by
  rintro ⟨_, hspelled, hdeclared⟩
  obtain ⟨frame, hframe, rfl⟩ := List.mem_map.mp hspelled
  obtain ⟨name, hname, rfl⟩ := List.mem_map.mp hdeclared
  rw [(h.free frame hframe name hname).unreserved] at hreserved
  cases hreserved

end Scope.Framed

/-- Every call in a resolved program is a call in its source. Its identifier denotes the function that the
source calls if and only if no vector inside the block of that function binds the identifier and the block
declares it once. Every conditional tests with the function of the runtime if and only if no vector around
it binds the identifier of that function and no block around it declares it; no block does when it is
reserved. -/
theorem resolve_shadowed_iff {lib : Library} {forms : List Form} {exprs : List Expr} {next : Scope}
    (hresolve : resolve (.ofLibrary lib) forms = .ok (exprs, next)) :
    List.Forall₂
      (fun use spelled => spelled.around = use.around.map Frame.spelled ∧
        (∀ name, use.usage = .call name →
          ∃ identifier, lib.targetAround? use.around name = some identifier ∧
            spelled.usage = .call identifier ∧
            (Frame.denoted? identifier spelled.around = Frame.called? name use.around ↔
              ¬ Frame.Binds (Frame.insideOf name use.around) identifier ∧
                Frame.Alone name identifier use.around)) ∧
        (use.usage = .test → spelled.usage = .test ∧
          (Frame.denoted? truthName spelled.around = none ↔
            ¬ Frame.Binds use.around truthName ∧ ¬ Frame.Declares spelled.around truthName) ∧
          (lib.isReserved truthName = true → ¬ Frame.Declares spelled.around truthName)))
      (Form.usesInProgram forms) (Expr.usesInProgram exprs) := by
  refine (resolve_becomes hresolve).imp fun use spelled hbecomes => ?_
  cases hbecomes with
  | value framed bound =>
    exact ⟨rfl, fun name hname => Usage.noConfusion hname, fun htest => Usage.noConfusion htest⟩
  | @call around scope name d framed declared =>
    refine ⟨rfl, fun _ hname => ?_, fun htest => Usage.noConfusion htest⟩
    cases hname
    have htarget := framed.functions name
    rw [declared, Option.map_some] at htarget
    exact ⟨_, htarget.symm, rfl, Frame.denoted?_eq_called?_iff (framed.target_mem_home declared)
      (framed.target_not_mem_inside declared)⟩
  | test framed =>
    refine ⟨rfl, fun name hname => Usage.noConfusion hname, fun _ => ?_⟩
    exact ⟨rfl, Frame.denoted?_eq_none_iff, framed.not_declares⟩

/-- A library whose runtime declares the function that tests, with one builtin. -/
def printing : Library :=
  .ofBuiltins "func truthy" [⟨"print", "print", ["x"], [], .call⟩] (by decide)

/-- Besides Swift's own names the library reserves the name of the function that tests. -/
theorem reserved_printing : printing.reserved = Library.swiftNames ++ [truthName] := by
  have hruntime : Declared.names "func truthy" = [truthName] := by
    with_unfolding_all rfl
  have hnative : Declared.names [] = [] := by
    unfold Declared.names Declared.namesFrom
    rfl
  simp [Library.reserved, printing, Library.ofBuiltins, hruntime, hnative]

/-- The form of a conditional. -/
def conditionalForm (test yes no : Form) : Form :=
  .group .round [.leaf .atom "if" default, test, yes, no] default

/-- The form of a call with one argument. -/
def callForm (name argument : Text) : Form :=
  .group .round [.leaf .atom name default, .leaf .atom argument default] default

/-- The forms of a function that calls itself in a conditional, of one whose parameter has its name, and of
one that calls itself after a sequence which declares another by its name. -/
def selfCalling : List Form :=
  [functionForm "g" "x" (conditionalForm (.leaf .atom "x" default) (callForm "g" "x")
    (.leaf .atom "x" default)),
   functionForm "f" "f" (callForm "f" "f"),
   .group .round [.leaf .atom "do" default, functionForm "h" "x" (.leaf .atom "x" default)] default,
   functionForm "h" "x" (callForm "h" "x")]

/-- The expressions that these forms stand for. -/
def selfCallingExprs : List Expr :=
  [.define "g" ["x"] [.ifElse (.symbol "x") (.call "g" [.symbol "x"]) (.symbol "x")],
   .define "f" ["f"] [.call "f" [.symbol "f"]],
   .sequence [.define "h" ["x"] [.symbol "x"]],
   .define "h" ["x"] [.call "h" [.symbol "x"]]]

/-- The frame of the program, at a place that sees some of its functions. -/
def selfCallingFrame (visible : List Text) : Frame :=
  ⟨[], visible, ["g", "f", "h", "h"]⟩

/-- The first function tests with the function of the runtime and calls itself. The second one calls its
parameter. The last one calls itself or the function in the sequence. -/
theorem selfCalling_shadowed :
    ∃ next, resolve (.ofLibrary printing) selfCalling = .ok (selfCallingExprs, next) ∧
      printing.isReserved truthName = true ∧
      Frame.denoted? truthName [⟨["x"], [], []⟩, selfCallingFrame ["g"]] = none ∧
      Frame.denoted? "g" [⟨[], [], []⟩, ⟨["x"], [], []⟩, selfCallingFrame ["g"]] =
        some (2, .function) ∧
      Frame.denoted? "f" [⟨["f"], [], []⟩, selfCallingFrame ["f", "g"]] ≠ some (1, .function) ∧
      Frame.denoted? "h" [⟨["x"], [], []⟩, selfCallingFrame ["h", "f", "g"]] ≠ some (1, .function) := by
  have hresolve : ∃ next, resolve (.ofLibrary printing) selfCalling =
      .ok (selfCallingExprs, next) := by
    rw [Scope.ofLibrary, reserved_printing]
    exact ⟨_, rfl⟩
  have hreserved : printing.isReserved truthName = true := by
    rw [Library.isReserved, reserved_printing]
    decide
  obtain ⟨next, hnext⟩ := hresolve
  have huses := resolve_shadowed_iff hnext
  obtain ⟨⟨-, -, htest⟩, hlater⟩ := List.forall₂_cons.mp huses
  obtain ⟨-, hlater⟩ := List.forall₂_cons.mp hlater
  obtain ⟨⟨-, hfirst, -⟩, hlater⟩ := List.forall₂_cons.mp hlater
  obtain ⟨-, hlater⟩ := List.forall₂_cons.mp hlater
  obtain ⟨-, hlater⟩ := List.forall₂_cons.mp hlater
  obtain ⟨⟨-, hsecond, -⟩, hlater⟩ := List.forall₂_cons.mp hlater
  obtain ⟨-, hlater⟩ := List.forall₂_cons.mp hlater
  obtain ⟨-, hlater⟩ := List.forall₂_cons.mp hlater
  obtain ⟨⟨-, hlast, -⟩, -⟩ := List.forall₂_cons.mp hlater
  have hruntime : Frame.denoted? truthName [⟨["x"], [], []⟩, selfCallingFrame ["g"]] = none := by
    obtain ⟨-, hiff, hfunction⟩ := htest rfl
    exact hiff.mpr ⟨by decide, hfunction hreserved⟩
  have hkept : Frame.denoted? "g" [⟨[], [], []⟩, ⟨["x"], [], []⟩, selfCallingFrame ["g"]] =
      some (2, .function) := by
    obtain ⟨identifier, -, hcall, hiff⟩ := hfirst "g" rfl
    cases hcall
    exact hiff.mpr (by decide)
  have hlost : Frame.denoted? "f" [⟨["f"], [], []⟩, selfCallingFrame ["f", "g"]] ≠
      some (1, .function) := by
    obtain ⟨identifier, -, hcall, hiff⟩ := hsecond "f" rfl
    cases hcall
    exact fun hsame => (hiff.mp hsame).1 (by decide)
  have hseveral : Frame.denoted? "h" [⟨["x"], [], []⟩, selfCallingFrame ["h", "f", "g"]] ≠
      some (1, .function) := by
    obtain ⟨identifier, -, hcall, hiff⟩ := hlast "h" rfl
    cases hcall
    exact fun hsame => absurd (hiff.mp hsame).2 (by decide)
  exact ⟨next, hnext, hreserved, hruntime, hkept, hlost, hseveral⟩

/-- The forms of a function whose parameter has the name of a builtin, and of one whose parameter has the
name of the function that tests. -/
def overcalling : List Form :=
  [functionForm "f" "print" (callForm "print" "print"),
   functionForm "g" truthName (conditionalForm (.leaf .atom truthName default)
    (.leaf .number "1" default) (.leaf .number "2" default))]

/-- The expressions that these forms stand for. -/
def overcallingExprs : List Expr :=
  [.define "f" ["print"] [.call "print" [.symbol "print"]],
   .define "g" [truthName] [.ifElse (.symbol truthName) (.number "1") (.number "2")]]

/-- The builtin is called with the identifier of the parameter, and so is the function that tests. -/
theorem overcalling_shadowed :
    ∃ next, resolve (.ofLibrary printing) overcalling = .ok (overcallingExprs, next) ∧
      Render.value printing (.call "print" [.symbol "print"]) = .ok "print(print)" ∧
      (∃ use ∈ Form.usesInProgram overcalling, use.usage = .call "print" ∧
        Frame.called? "print" use.around = none ∧
        Frame.denoted? "print" (use.around.map Frame.spelled) = some (0, .value)) ∧
      ∃ use ∈ Form.usesInProgram overcalling, use.usage = .test ∧
        Frame.denoted? truthName (use.around.map Frame.spelled) = some (0, .value) := by
  have hresolve : ∃ next, resolve (.ofLibrary printing) overcalling =
      .ok (overcallingExprs, next) := by
    rw [Scope.ofLibrary, reserved_printing]
    exact ⟨_, rfl⟩
  obtain ⟨next, hnext⟩ := hresolve
  exact ⟨next, hnext, rfl, by decide, by decide⟩

end SwiftForms
