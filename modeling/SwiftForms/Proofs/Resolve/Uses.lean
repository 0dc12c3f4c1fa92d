import Mathlib.Data.List.Forall2
import SwiftForms.Proofs.Resolve.Declarations
import SwiftForms.Proofs.Swift.Blocks

/-!
# Names and what stands around them

Every place at which a name is used stands inside some blocks: the program, the bodies of functions and
of bindings, and the branches of conditionals. Each of them binds some variables and declares some
functions. They are the frames of the place, the innermost one first. A place sees the functions that
come before it in a block, and not those inside of sequences, but a sequence is no block of its own: in
Swift its functions belong to the block that it stands in. The frames of a source are read off its forms,
with the names that the source has; the frames of a resolved program are read off its expressions, with
Swift identifiers. Main statement: the uses of a resolved program are those of its source, one by one,
with every name in its spelling.
-/

namespace SwiftForms

/-- What a block introduces for the places inside it. -/
structure Frame where
  /-- The variables: the parameters of a function, or those of a binding. -/
  names : List Text
  /-- The functions of the block that the place sees. -/
  visible : List Text
  /-- All functions of the block, those that it declares in sequences among them. -/
  declared : List Text
  deriving DecidableEq, Repr

/-- The frame with its names in their Swift spelling. -/
def Frame.spelled (frame : Frame) : Frame where
  names := frame.names.map Identifier.ofName
  visible := frame.visible.map Identifier.ofName
  declared := frame.declared.map Identifier.ofName

/-- The frames after the declaration of a function in the innermost block. -/
def Frame.declare (name : Text) : List Frame → List Frame
  | [] => []
  | frame :: outside => { frame with visible := name :: frame.visible } :: outside

/-- The functions of the innermost block. -/
def Frame.here : List Frame → List Text
  | [] => []
  | frame :: _ => frame.declared

/-- Some vector among the frames has a name with a given spelling. -/
def Frame.Binds (frames : List Frame) (identifier : Text) : Prop :=
  ∃ frame ∈ frames, ∃ name ∈ frame.names, Identifier.ofName name = identifier

instance (frames : List Frame) (identifier : Text) : Decidable (Frame.Binds frames identifier) :=
  inferInstanceAs (Decidable (∃ frame ∈ frames, ∃ name ∈ frame.names,
    Identifier.ofName name = identifier))

/-- The innermost frame in which something is found: the number of frames inside it, and what is
found. -/
def Frame.innermost {α : Type} (find : Frame → Option α) : List Frame → Option (Nat × α)
  | [] => none
  | frame :: outside =>
    match find frame with
    | some found => some (0, found)
    | none => (innermost find outside).map fun (depth, found) => (depth + 1, found)

namespace Frame

variable {α : Type} {find : Frame → Option α}

/-- A function is declared before its name is spelled or after. -/
theorem declare_map_spelled (name : Text) (around : List Frame) :
    declare (Identifier.ofName name) (around.map spelled) = (declare name around).map spelled := by
  cases around <;> rfl

/-- What the first frame has is found there. -/
theorem innermost_cons_of_some {frame : Frame} {found : α} (h : find frame = some found)
    (outside : List Frame) : innermost find (frame :: outside) = some (0, found) := by
  rw [innermost, h]

/-- What the first frame does not have is found further outside. -/
theorem innermost_cons_of_none {frame : Frame} (h : find frame = none) (outside : List Frame) :
    innermost find (frame :: outside) =
      (innermost find outside).map fun (depth, found) => (depth + 1, found) := by
  rw [innermost, h]

/-- Nothing is found when no frame has it. -/
theorem innermost_eq_none_iff {around : List Frame} :
    innermost find around = none ↔ ∀ frame ∈ around, find frame = none := by
  induction around with
  | nil => simp [innermost]
  | cons frame outside ih =>
    rw [List.forall_mem_cons]
    cases hfind : find frame with
    | some found => simp [innermost_cons_of_some hfind]
    | none => simpa [innermost_cons_of_none hfind] using ih

/-- Something is found in a frame when none of the frames inside it has anything. -/
theorem innermost_eq_some_iff {around : List Frame} {depth : Nat} {found : α} :
    innermost find around = some (depth, found) ↔
      (∃ frame, around[depth]? = some frame ∧ find frame = some found) ∧
        ∀ inside ∈ around.take depth, find inside = none := by
  induction around generalizing depth with
  | nil => simp [innermost]
  | cons frame outside ih =>
    cases hfind : find frame with
    | some first =>
      rw [innermost_cons_of_some hfind]
      cases depth <;> simp [hfind, eq_comm]
    | none =>
      rw [innermost_cons_of_none hfind]
      cases depth with
      | zero => simp [hfind]
      | succ depth =>
        rw [List.take_succ_cons, List.forall_mem_cons, List.getElem?_cons_succ]
        simpa [hfind] using ih

/-- Finding in changed frames is finding through the change. -/
theorem innermost_map (change : Frame → Frame) (around : List Frame) :
    innermost find (around.map change) = innermost (find ∘ change) around := by
  induction around with
  | nil => rfl
  | cons frame outside ih =>
    rw [List.map_cons, innermost, innermost, ih]
    rfl

end Frame

/-- What a place uses. -/
inductive Usage where
  /-- The value of a variable. -/
  | value (name : Text)
  /-- A function, which is called. -/
  | call (name : Text)
  /-- The truth of a value, on which a conditional depends. -/
  | test
  deriving DecidableEq, Repr

/-- A use with the frames around it, the innermost one first. -/
structure Use where
  /-- What is used. -/
  usage : Usage
  /-- The frames. -/
  around : List Frame
  deriving DecidableEq, Repr

namespace Form

mutual

/-- The names of the functions that a form adds to the block that it stands in. -/
def placed : Form → List Text
  | .group .round (.leaf .atom head _ :: rest) _ =>
    match SpecialForm.ofName? head with
    | some .define => (rest.take 1).map text
    | some .sequence => placedAll rest
    | _ => []
  | _ => []

/-- The names of the functions that forms add to the block that they stand in. -/
def placedAll : List Form → List Text
  | [] => []
  | f :: rest => placed f ++ placedAll rest

end

/-- The frame of a block with some variables, at its beginning. -/
def frame (names : List Text) (body : List Form) : Frame :=
  ⟨names, [], placedAll body⟩

/-- The frames around what comes after a form of a body. -/
def framesAfter (around : List Frame) (f : Form) : List Frame :=
  match f.declared? with
  | some name => Frame.declare name around
  | none => around

mutual

/-- The uses in a form, from left to right. -/
def uses (around : List Frame) : Form → List Use
  | .leaf .atom name _ => [⟨.value name, around⟩]
  | .leaf _ _ _ => []
  | .group .square items _ => usesOfAll around items
  | .group .round [] _ => []
  | .group .round (head :: rest) _ =>
    match head with
    | .leaf .atom name _ =>
      match SpecialForm.ofName? name with
      | some .define => usesInDefinition around rest
      | some .conditional => ⟨.test, around⟩ :: usesInConditional around rest
      | some .bind => usesInBinding around rest
      | some .sequence => usesOfAll around rest
      | none => ⟨.call name, around⟩ :: usesOfAll around rest
    | _ => []

/-- The uses in the body of a declaration, which stands after the declaration itself. -/
def usesInDefinition (around : List Frame) : List Form → List Use
  | .leaf .atom name _ :: .group .square params _ :: body =>
    usesInBody (frame (params.map text) body :: Frame.declare name around) body
  | _ => []

/-- The uses in the test and in the branches of a conditional. -/
def usesInConditional (around : List Frame) : List Form → List Use
  | [] => []
  | test :: branches => uses around test ++ usesInBranches around branches

/-- The uses in branches, each of which is a block. -/
def usesInBranches (around : List Frame) : List Form → List Use
  | [] => []
  | f :: rest => uses (frame [] [f] :: around) f ++ usesInBranches around rest

/-- The uses in the values and in the body of a binding, which are one block. -/
def usesInBinding (around : List Frame) : List Form → List Use
  | .group .square pairs _ :: body =>
    usesOfPairs (frame ((Resolve.pairHeads pairs).map text) body :: around) pairs ++
      usesInBody (frame ((Resolve.pairHeads pairs).map text) body :: around) body
  | _ => []

/-- The uses in the values of name and value pairs. -/
def usesOfPairs (around : List Frame) : List Form → List Use
  | _ :: value :: rest => uses around value ++ usesOfPairs around rest
  | _ => []

/-- The uses in forms that do not see each other. -/
def usesOfAll (around : List Frame) : List Form → List Use
  | [] => []
  | f :: rest => uses around f ++ usesOfAll around rest

/-- The uses in the forms of a body, each of which stands after those before it. -/
def usesInBody (around : List Frame) : List Form → List Use
  | [] => []
  | f :: rest => uses around f ++ usesInBody (framesAfter around f) rest

end

/-- The uses in a program. -/
def usesInProgram (program : List Form) : List Use :=
  usesInBody [frame [] program] program

/-- A declaration adds its function to the block that it stands in. -/
theorem mem_placed_of_declared? {f : Form} {name : Text} (h : f.declared? = some name) :
    name ∈ f.placed := by
  unfold declared? at h
  split at h
  · rename_i head _ declared _ _ _
    obtain ⟨hhead, hname⟩ := Option.ite_none_right_eq_some.mp h
    have hdefine := SpecialForm.ofName?_eq_some_iff.mpr hhead
    cases hname
    simp only [placed, hdefine]
    exact List.mem_singleton_self _
  · cases h

/-- What is no special form declares no function. -/
theorem placed_subset {f : Form} (h : f.isSpecial = false) (names : List Text) :
    f.placed ⊆ names := by
  unfold isSpecial at h
  unfold placed
  split
  · dsimp only at h
    rw [Option.isSome_eq_false_iff, Option.isNone_iff_eq_none] at h
    rw [h]
    exact List.nil_subset names
  · exact List.nil_subset names

/-- The functions of a branch are those of its block. -/
theorem placed_subset_branch (f : Form) : f.placed ⊆ placedAll [f] := by
  rw [placedAll, placedAll, List.append_nil]
  exact List.Subset.refl _

end Form

namespace Expr

/-- The frame of a block with some variables, at its beginning. -/
def frame (names : List Text) (body : List Expr) : Frame :=
  ⟨names, [], (placedAll false body).map Placed.identifier⟩

/-- The frames around what comes after an expression of a body. -/
def framesAfter (around : List Frame) : Expr → List Frame
  | .define name _ _ => Frame.declare name around
  | _ => around

mutual

/-- The uses in an expression, from left to right. -/
def uses (around : List Frame) : Expr → List Use
  | .symbol name => [⟨.value name, around⟩]
  | .call name args => ⟨.call name, around⟩ :: usesOfAll around args
  | .ifThen test yes => ⟨.test, around⟩ :: (uses around test ++ uses (frame [] [yes] :: around) yes)
  | .ifElse test yes no =>
    ⟨.test, around⟩ ::
      (uses around test ++ (uses (frame [] [yes] :: around) yes ++ uses (frame [] [no] :: around) no))
  | .bind bound body =>
    usesOfBindings (frame (bound.map Prod.fst) body :: around) bound ++
      usesInBody (frame (bound.map Prod.fst) body :: around) body
  | .sequence body => usesOfAll around body
  | .vector items => usesOfAll around items
  | .define name params body => usesInBody (frame params body :: Frame.declare name around) body
  | _ => []

/-- The uses in the values of bindings. -/
def usesOfBindings (around : List Frame) : List (Text × Expr) → List Use
  | [] => []
  | (_, value) :: rest => uses around value ++ usesOfBindings around rest

/-- The uses in expressions that do not see each other. -/
def usesOfAll (around : List Frame) : List Expr → List Use
  | [] => []
  | e :: rest => uses around e ++ usesOfAll around rest

/-- The uses in the expressions of a body, each of which stands after those before it. -/
def usesInBody (around : List Frame) : List Expr → List Use
  | [] => []
  | e :: rest => uses around e ++ usesInBody (framesAfter around e) rest

end

/-- The uses in a program. -/
def usesInProgram (program : List Expr) : List Use :=
  usesInBody [frame [] program] program

end Expr

/-- The functions that forms and their expressions add to a block are spelled alike. -/
theorem Expr.frame_eq_spelled {forms : List Form} {exprs : List Expr} (names : List Text)
    (h : (placedAll false exprs).map Placed.identifier =
      (Form.placedAll forms).map Identifier.ofName) :
    frame (names.map Identifier.ofName) exprs = (Form.frame names forms).spelled := by
  rw [frame, h]
  rfl

mutual

/-- The functions that a resolved form adds to its block are spelled as those of its expression. -/
theorem Resolves.placed {scope : Scope} {loose : Bool} :
    ∀ {f : Form} {e : Expr}, Resolves scope f e →
      (e.placed loose).map Placed.identifier = f.placed.map Identifier.ofName
  | _, _, .string | _, _, .number | _, _, .symbol _ | _, _, .vector _ => rfl
  | _, _, .call notSpecial _ _ _ => by
    simp only [Form.placed, notSpecial]
    rfl
  | _, _, .define special _ _ _ => by
    simp only [Form.placed, special]
    rfl
  | _, _, .ifThen special _ _ _ | _, _, .ifElse special _ _ _ _ | _, _, .bind special _ _ _ => by
    simp only [Form.placed, special]
    rfl
  | _, _, .sequence special inside => by
    simp only [Form.placed, special]
    exact inside.placedAll

/-- The functions that the forms of a sequence add to a block are spelled as those of their
expressions. -/
theorem ResolvesStatements.placedAll {scope : Scope} {loose : Bool} :
    ∀ {forms : List Form} {exprs : List Expr}, ResolvesStatements scope forms exprs →
      (Expr.placedAll loose exprs).map Placed.identifier =
        (Form.placedAll forms).map Identifier.ofName
  | _, _, .nil => rfl
  | _, _, .cons first later => by
    rw [Expr.placedAll, Form.placedAll, List.map_append, List.map_append, first.placed,
      later.placedAll]

end

/-- The functions that the forms of a body add to a block are spelled as those of their expressions. -/
theorem ResolvesSequence.placedAll {scope final : Scope} {forms : List Form} {exprs : List Expr}
    (h : ResolvesSequence scope forms exprs final) :
    (Expr.placedAll false exprs).map Placed.identifier =
      (Form.placedAll forms).map Identifier.ofName := by
  induction forms generalizing scope exprs with
  | nil =>
    cases h
    rfl
  | cons f rest ih =>
    cases h with
    | cons first later =>
      rw [Expr.placedAll, Form.placedAll, List.map_append, List.map_append, first.placed, ih later]

/-- The functions that a branch declares are spelled as those of its expression. -/
theorem Resolves.placedBranch {scope : Scope} {f : Form} {e : Expr} (h : Resolves scope f e) :
    (Expr.placedAll false [e]).map Placed.identifier =
      (Form.placedAll [f]).map Identifier.ofName := by
  simp only [Expr.placedAll, Form.placedAll, List.append_nil, h.placed]

/-- A place sees a function of some block by its name. -/
def Frame.Sees (around : List Frame) (name : Text) : Prop :=
  ∃ frame ∈ around, name ∈ frame.visible

instance (around : List Frame) (name : Text) : Decidable (Frame.Sees around name) :=
  inferInstanceAs (Decidable (∃ frame ∈ around, name ∈ frame.visible))

/-- After the declaration of a function in a block the place sees this function too. -/
theorem Frame.sees_declare_iff {around : List Frame} {name other : Text} (h : around ≠ []) :
    Sees (declare name around) other ↔ other = name ∨ Sees around other := by
  obtain ⟨frame, outside, rfl⟩ := List.exists_cons_of_ne_nil h
  rw [declare, Sees, Sees, List.exists_mem_cons_iff, List.exists_mem_cons_iff, List.mem_cons, or_assoc]

/-- The Swift identifier or operator that calls a function by its name in the source: the spelling of the
name if the function is declared around the call, and the target of a builtin otherwise. -/
def Library.targetAround? (lib : Library) (around : List Frame) (name : Text) : Option Text :=
  if Frame.Sees around name then some (Identifier.ofName name)
  else (lib.named? name).map Builtin.target

/-- An identifier that the functions of a block have, whatever they are called in the source: it is not
reserved, and no builtin has it. -/
structure Library.Free (lib : Library) (identifier : Text) : Prop where
  /-- It is not reserved. -/
  unreserved : lib.isReserved identifier = false
  /-- No builtin has it. -/
  builtins : ∀ b ∈ lib.builtins, b.target ≠ identifier

/-- Frames tell what is visible in a scope over a library. -/
structure Scope.Framed (lib : Library) (around : List Frame) (scope : Scope) : Prop where
  /-- The variables are those of the frames. -/
  symbols : scope.symbols = around.flatMap Frame.names
  /-- The variables of one frame are spelled differently. -/
  distinct : ∀ frame ∈ around, (frame.names.map Identifier.ofName).Nodup
  /-- The functions are those that the place sees and the builtins. -/
  functions : ∀ name, (scope.function? name).map Declaration.target = lib.targetAround? around name
  /-- The functions that the place sees are among those of their blocks. -/
  visible : ∀ frame ∈ around, frame.visible ⊆ frame.declared
  /-- A block declares no function with the identifier of one that it sees outside. -/
  apart : around.Pairwise fun frame outer => ∀ name ∈ frame.declared, ∀ other ∈ outer.visible,
    Identifier.ofName name ≠ Identifier.ofName other
  /-- The functions of the blocks have free identifiers. -/
  free : ∀ frame ∈ around, ∀ name ∈ frame.declared, lib.Free (Identifier.ofName name)
  /-- The scope is sound. -/
  sound : scope.Sound lib

namespace Scope.Framed

variable {lib : Library} {around : List Frame} {scope : Scope}

/-- A function that the place sees is declared with the identifier of its name. -/
theorem hasTarget_of_sees (h : Framed lib around scope) {name : Text} (hsees : Frame.Sees around name) :
    scope.hasTarget (Identifier.ofName name) = true := by
  have htarget := h.functions name
  rw [Library.targetAround?, if_pos hsees, Option.map_eq_some_iff] at htarget
  obtain ⟨d, hd, hspelled⟩ := htarget
  exact List.any_eq_true.mpr ⟨d, mem_values_of_function? hd, decide_eq_true hspelled⟩

/-- Around a program there are no frames. -/
theorem ofLibrary (lib : Library) : Framed lib [] (.ofLibrary lib) := by
  refine ⟨rfl, List.forall_mem_nil _, fun name => ?_, List.forall_mem_nil _, .nil,
    List.forall_mem_nil _, sound_ofLibrary lib⟩
  rw [Library.targetAround?, if_neg (by simp [Frame.Sees]), function?_ofLibrary_eq, Option.map_map]
  rfl

/-- What may be declared in a scope has a free identifier. -/
theorem free_of_new (h : Framed lib around scope) {identifier : Text}
    (htarget : scope.hasTarget identifier = false) (hreserved : scope.isReserved identifier = false) :
    lib.Free identifier := by
  refine ⟨by rwa [isReserved, h.sound.reserved] at hreserved, fun b hb heq => ?_⟩
  have hmem := mem_values_of_function? (h.sound.builtins b hb)
  exact List.any_eq_false.mp htarget _ hmem (decide_eq_true heq)

/-- Inside a block with some variables, whose functions are new. -/
theorem inside (h : Framed lib around scope) {names : List Text} {body : List Form}
    {placed : List Placed} (hnames : (names.map Identifier.ofName).Nodup)
    (hplaced : placed.map Placed.identifier = (Form.placedAll body).map Identifier.ofName)
    (hnew : scope.New placed) :
    Framed lib (Form.frame names body :: around) (scope.withSymbols names) := by
  have hbody : ∀ name ∈ Form.placedAll body, scope.hasTarget (Identifier.ofName name) = false ∧
      scope.isReserved (Identifier.ofName name) = false := by
    intro name hname
    have hmem : Identifier.ofName name ∈ placed.map Placed.identifier := by
      rw [hplaced]
      exact List.mem_map_of_mem hname
    obtain ⟨d, hd, hidentifier⟩ := List.mem_map.mp hmem
    rw [← hidentifier]
    exact hnew d hd
  refine ⟨?_, List.forall_mem_cons.mpr ⟨hnames, h.distinct⟩, fun name => ?_,
    List.forall_mem_cons.mpr ⟨List.nil_subset _, h.visible⟩,
    List.pairwise_cons.mpr ⟨?_, h.apart⟩, List.forall_mem_cons.mpr ⟨?_, h.free⟩,
    h.sound.withSymbols names⟩
  · rw [List.flatMap_cons, ← h.symbols]
    rfl
  · change (scope.function? name).map Declaration.target = _
    have hsees : Frame.Sees (Form.frame names body :: around) name ↔ Frame.Sees around name := by
      simp [Frame.Sees, Form.frame]
    rw [h.functions name]
    simp only [Library.targetAround?, hsees]
  · intro outer houter name hname other hother heq
    have hseen := h.hasTarget_of_sees ⟨outer, houter, hother⟩
    rw [← heq, (hbody name hname).1] at hseen
    cases hseen
  · intro name hname
    exact h.free_of_new (hbody name hname).1 (hbody name hname).2

/-- After the declaration of a function. -/
theorem function (h : Framed lib around scope) {name : Text} (hhere : name ∈ Frame.here around)
    (ha : scope.Admits name) {d : Declaration} (hd : d.target = Identifier.ofName name) :
    Framed lib (Frame.declare name around) (scope.withFunction name d) := by
  cases around with
  | nil => cases hhere
  | cons frame outside =>
    obtain ⟨hdistinct, hdistinctOutside⟩ := List.forall_mem_cons.mp h.distinct
    obtain ⟨hvisible, hvisibleOutside⟩ := List.forall_mem_cons.mp h.visible
    obtain ⟨hfree, hfreeOutside⟩ := List.forall_mem_cons.mp h.free
    obtain ⟨hapart, hapartOutside⟩ := List.pairwise_cons.mp h.apart
    refine ⟨h.symbols, List.forall_mem_cons.mpr ⟨hdistinct, hdistinctOutside⟩, fun other => ?_,
      List.forall_mem_cons.mpr ⟨List.cons_subset.mpr ⟨hhere, hvisible⟩, hvisibleOutside⟩,
      List.pairwise_cons.mpr ⟨hapart, hapartOutside⟩, List.forall_mem_cons.mpr ⟨hfree, hfreeOutside⟩,
      h.sound.withFunction ha hd⟩
    have hother := h.functions other
    have hsees : Frame.Sees (Frame.declare name (frame :: outside)) other ↔
        other = name ∨ Frame.Sees (frame :: outside) other :=
      Frame.sees_declare_iff (List.cons_ne_nil _ _)
    rw [function?, Library.targetAround?] at hother
    rw [function?, Scope.withFunction, Dict.find?_insert, Library.targetAround?]
    by_cases hsame : other = name
    · rw [if_pos hsame, if_pos (hsees.mpr (.inl hsame)), Option.map_some, hd, hsame]
    · rw [if_neg hsame, hother]
      simp only [hsees, hsame, false_or]

/-- Inside the declaration of a function. -/
theorem insideFunction (h : Framed lib around scope) {name : Text} (hhere : name ∈ Frame.here around)
    (ha : scope.Admits name) {params : List Text} {body : List Form} {placed : List Placed}
    (hparams : (params.map Identifier.ofName).Nodup)
    (hplaced : placed.map Placed.identifier = (Form.placedAll body).map Identifier.ofName)
    (hnew : (scope.insideFunction name params).New placed) :
    Framed lib (Form.frame params body :: Frame.declare name around)
      (scope.insideFunction name params) :=
  (h.function hhere ha
    (d := ⟨Identifier.ofName name, params.map Identifier.ofName, .external (some [])⟩) rfl).inside
    hparams hplaced hnew

/-- Inside a branch of a conditional. -/
theorem insideBranch (h : Framed lib around scope) {f : Form} {e : Expr} (hf : Resolves scope f e) :
    Framed lib (Form.frame [] [f] :: around) scope := by
  have hnew : scope.New (Expr.placedAll false [e]) := by
    rw [Expr.placedAll, Expr.placedAll, List.append_nil]
    exact (hf.apart false).1
  exact h.inside List.nodup_nil hf.placedBranch hnew

/-- After a resolved form of a body. -/
theorem scopeAfter (h : Framed lib around scope) {f : Form} {e : Expr} (hf : Resolves scope f e)
    (hplaced : f.placed ⊆ Frame.here around) :
    Framed lib (f.framesAfter around) (Resolve.scopeAfter scope f e) := by
  rcases hf.declared_cases with ⟨hnone, hafter⟩ | ⟨name, params, body, hname, hadmits, -, hafter⟩
  · rw [Form.framesAfter, hnone, hafter]
    exact h
  · rw [Form.framesAfter, hname, hafter]
    exact h.function (hplaced (Form.mem_placed_of_declared? hname)) hadmits rfl

end Scope.Framed

/-- The frames after a resolved form are spelled as the frames after its expression. -/
theorem Resolves.framesAfter {scope : Scope} {f : Form} {e : Expr} (h : Resolves scope f e)
    (around : List Frame) :
    e.framesAfter (around.map Frame.spelled) = (f.framesAfter around).map Frame.spelled := by
  rcases h.declared_cases with ⟨hnone, hafter⟩ | ⟨name, params, body, hname, -, he, -⟩
  · have hne : ∀ target params body, e ≠ .define target params body := by
      rcases h.scopeAfter_cases with ⟨-, hne⟩ | ⟨name, names, exprs, hadmits, -, hdeclared⟩
      · exact hne
      · have hnew := hadmits.newName
        rw [hafter scope] at hdeclared
        rw [hdeclared, Scope.function?_withFunction_self] at hnew
        cases hnew
    rw [Form.framesAfter, hnone]
    cases e with
    | define target params body => exact absurd rfl (hne target params body)
    | _ => rfl
  · rw [Form.framesAfter, hname, he]
    exact Frame.declare_map_spelled name around

/-- A form of a body leaves the functions of the block as they are. -/
theorem Form.here_framesAfter (around : List Frame) (f : Form) :
    Frame.here (f.framesAfter around) = Frame.here around := by
  unfold framesAfter
  cases f.declared? with
  | none => rfl
  | some name => cases around <;> rfl

/-- A use in a source becomes a use in the resolved program: the names are spelled, and what is used is
visible in a scope that the frames tell. -/
inductive Use.Becomes (lib : Library) : Use → Use → Prop
  /-- The value of a bound variable. -/
  | value {around scope name} (framed : Scope.Framed lib around scope)
    (bound : scope.hasSymbol name = true) :
    Becomes lib ⟨.value name, around⟩
      ⟨.value (Identifier.ofName name), around.map Frame.spelled⟩
  /-- A call of a declared function. -/
  | call {around scope name d} (framed : Scope.Framed lib around scope)
    (declared : scope.function? name = some d) :
    Becomes lib ⟨.call name, around⟩ ⟨.call d.target, around.map Frame.spelled⟩
  /-- The truth of a value. -/
  | test {around scope} (framed : Scope.Framed lib around scope) :
    Becomes lib ⟨.test, around⟩ ⟨.test, around.map Frame.spelled⟩

mutual

/-- The uses in a form become those in its expression. -/
theorem Resolves.becomes {lib : Library} {around : List Frame} {scope : Scope}
    (hframed : Scope.Framed lib around scope) :
    ∀ {f : Form} {e : Expr}, Resolves scope f e → f.placed ⊆ Frame.here around →
      List.Forall₂ (Use.Becomes lib) (f.uses around) (e.uses (around.map Frame.spelled))
  | _, _, .string, _ => .nil
  | _, _, .number, _ => .nil
  | _, _, .symbol bound, _ => .cons (.value hframed bound) .nil
  | _, _, .vector values, _ => values.becomes hframed
  | _, _, .call notSpecial declared _ values, _ => by
    simp only [Form.uses, notSpecial]
    exact .cons (.call hframed declared) (values.becomes hframed)
  | _, _, .define special admits spells inside, hplaced => by
    simp only [Form.placed, special] at hplaced
    have hinside := hframed.insideFunction (hplaced List.mem_cons_self) admits spells.distinct
      inside.placedAll inside.apart.1
    have hbody := inside.becomes hinside (List.Subset.refl _)
    rw [List.map_cons, ← Expr.frame_eq_spelled _ inside.placedAll, ← Frame.declare_map_spelled]
      at hbody
    simp only [Form.uses, special, Form.usesInDefinition, ← spells.texts]
    exact hbody
  | _, _, .ifThen special value tested yesBranch, _ => by
    have htest := tested.becomes hframed (Form.placed_subset value _)
    have hyes := yesBranch.becomes (hframed.insideBranch yesBranch) (Form.placed_subset_branch _)
    rw [List.map_cons, ← Expr.frame_eq_spelled [] yesBranch.placedBranch] at hyes
    simp only [Form.uses, special, Form.usesInConditional, Form.usesInBranches, List.append_nil]
    exact .cons (.test hframed) (List.rel_append htest hyes)
  | _, _, .ifElse special value tested yesBranch noBranch, _ => by
    have htest := tested.becomes hframed (Form.placed_subset value _)
    have hyes := yesBranch.becomes (hframed.insideBranch yesBranch) (Form.placed_subset_branch _)
    have hno := noBranch.becomes (hframed.insideBranch noBranch) (Form.placed_subset_branch _)
    rw [List.map_cons, ← Expr.frame_eq_spelled [] yesBranch.placedBranch] at hyes
    rw [List.map_cons, ← Expr.frame_eq_spelled [] noBranch.placedBranch] at hno
    simp only [Form.uses, special, Form.usesInConditional, Form.usesInBranches, List.append_nil]
    exact .cons (.test hframed) (List.rel_append htest (List.rel_append hyes hno))
  | _, _, .bind special spells values inside, _ => by
    have hinside := hframed.inside spells.distinct inside.placedAll inside.apart.1
    have hvalues := values.becomes hinside
    have hbody := inside.becomes hinside (List.Subset.refl _)
    have hnames := values.names
    rw [← spells.texts] at hnames
    rw [List.map_cons, ← Expr.frame_eq_spelled _ inside.placedAll, ← hnames] at hvalues hbody
    simp only [Form.uses, special, Form.usesInBinding, ← spells.texts]
    exact List.rel_append hvalues hbody
  | _, _, .sequence special inside, hplaced => by
    simp only [Form.placed, special] at hplaced
    simp only [Form.uses, special]
    exact inside.becomes hframed hplaced

/-- The uses in values become those in their expressions. -/
theorem ResolvesValues.becomes {lib : Library} {around : List Frame} {scope : Scope}
    (hframed : Scope.Framed lib around scope) :
    ∀ {forms : List Form} {exprs : List Expr}, ResolvesValues scope forms exprs →
      List.Forall₂ (Use.Becomes lib) (Form.usesOfAll around forms)
        (Expr.usesOfAll (around.map Frame.spelled) exprs)
  | _, _, .nil => .nil
  | _, _, .cons value first later =>
    List.rel_append (first.becomes hframed (Form.placed_subset value _)) (later.becomes hframed)

/-- The uses in the values of pairs become those in the values of bindings. -/
theorem ResolvesBindings.becomes {lib : Library} {around : List Frame} {scope : Scope}
    (hframed : Scope.Framed lib around scope) :
    ∀ {pairs : List Form} {bound : List (Text × Expr)}, ResolvesBindings scope pairs bound →
      List.Forall₂ (Use.Becomes lib) (Form.usesOfPairs around pairs)
        (Expr.usesOfBindings (around.map Frame.spelled) bound)
  | _, _, .nil => .nil
  | _, _, .cons value first later =>
    List.rel_append (first.becomes hframed (Form.placed_subset value _)) (later.becomes hframed)

/-- The uses in statements that do not see each other become those in their expressions. -/
theorem ResolvesStatements.becomes {lib : Library} {around : List Frame} {scope : Scope}
    (hframed : Scope.Framed lib around scope) :
    ∀ {forms : List Form} {exprs : List Expr}, ResolvesStatements scope forms exprs →
      Form.placedAll forms ⊆ Frame.here around →
        List.Forall₂ (Use.Becomes lib) (Form.usesOfAll around forms)
          (Expr.usesOfAll (around.map Frame.spelled) exprs)
  | _, _, .nil, _ => .nil
  | _, _, .cons first later, hplaced => by
    obtain ⟨hfirst, hlater⟩ := List.append_subset.mp hplaced
    exact List.rel_append (first.becomes hframed hfirst) (later.becomes hframed hlater)

/-- The uses in a body become those in its expressions. -/
theorem ResolvesSequence.becomes {lib : Library} {around : List Frame} {scope : Scope}
    (hframed : Scope.Framed lib around scope) :
    ∀ {forms : List Form} {exprs : List Expr} {final : Scope},
      ResolvesSequence scope forms exprs final → Form.placedAll forms ⊆ Frame.here around →
        List.Forall₂ (Use.Becomes lib) (Form.usesInBody around forms)
          (Expr.usesInBody (around.map Frame.spelled) exprs)
  | _, _, _, .nil, _ => .nil
  | _, _, _, .cons first later, hplaced => by
    obtain ⟨hfirst, hrest⟩ := List.append_subset.mp hplaced
    rw [← Form.here_framesAfter] at hrest
    have hlater := later.becomes (hframed.scopeAfter first hfirst) hrest
    rw [← first.framesAfter around] at hlater
    exact List.rel_append (first.becomes hframed hfirst) hlater

end

/-- The uses of a resolved program are those of its source, one by one. -/
theorem resolve_becomes {lib : Library} {forms : List Form} {exprs : List Expr} {next : Scope}
    (h : resolve (.ofLibrary lib) forms = .ok (exprs, next)) :
    List.Forall₂ (Use.Becomes lib) (Form.usesInProgram forms) (Expr.usesInProgram exprs) := by
  have hsequence := Resolve.sequence_derivation h
  have hframed : Scope.Framed lib [Form.frame [] forms] (.ofLibrary lib) :=
    (Scope.Framed.ofLibrary lib).inside List.nodup_nil hsequence.placedAll hsequence.apart.1
  have huses := hsequence.becomes hframed (List.Subset.refl _)
  rwa [List.map_cons, ← Expr.frame_eq_spelled [] hsequence.placedAll] at huses

end SwiftForms
