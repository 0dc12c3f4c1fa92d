import SwiftForms.Proofs.Resolve.Closed
import SwiftForms.Proofs.Swift.Writing

/-!
# The functions that the blocks of a program declare

A block is the program itself, the body of a function, a branch of a conditional or the body of a
binding. A sequence is no block of its own: what it declares belongs to the block around it. A function
that is declared in a sequence is not visible to the forms after it, so it does not keep them from
declaring the same identifier. Main statement: this is the only way in which a block of a resolved
program comes to declare an identifier twice.
-/

namespace SwiftForms

namespace Stmt

/-- The identifier of the function that a statement declares. -/
def functionName? : Stmt → Option Text
  | .function name _ _ => some name
  | _ => none

/-- The identifiers of the functions that a block declares. -/
def declared (block : List Stmt) : List Text :=
  block.filterMap functionName?

mutual

/-- The blocks inside a statement. -/
def inner : Stmt → List (List Stmt)
  | .function _ _ body => body :: innerAll body
  | .ifThen _ yes => yes :: innerAll yes
  | .ifElse _ yes no => (yes :: innerAll yes) ++ (no :: innerAll no)
  | .block _ body => body :: innerAll body
  | _ => []

/-- The blocks inside statements one after another. -/
def innerAll : List Stmt → List (List Stmt)
  | [] => []
  | statement :: rest => inner statement ++ innerAll rest

end

/-- The blocks of a program, itself in front. -/
def blocks (program : List Stmt) : List (List Stmt) :=
  program :: innerAll program

/-- What a block declares is what its parts declare. -/
theorem declared_append (block rest : List Stmt) :
    declared (block ++ rest) = declared block ++ declared rest :=
  List.filterMap_append

/-- What is gathered statement by statement is gathered part by part. -/
theorem gathered_append {α : Type} {one : Stmt → List α} {all : List Stmt → List α} (hnil : all [] = [])
    (hcons : ∀ statement rest, all (statement :: rest) = one statement ++ all rest)
    (lines rest : List Stmt) : all (lines ++ rest) = all lines ++ all rest := by
  induction lines with
  | nil => rw [hnil, List.nil_append, List.nil_append]
  | cons statement others ih => rw [List.cons_append, hcons, hcons, ih, List.append_assoc]

/-- The blocks inside statements are those inside the parts. -/
theorem innerAll_append (block rest : List Stmt) :
    innerAll (block ++ rest) = innerAll block ++ innerAll rest :=
  gathered_append rfl (fun _ _ => rfl) block rest

end Stmt

/-- A function declaration that belongs to a block. -/
structure Placed where
  /-- The identifier of the function. -/
  identifier : Text
  /-- Whether the declaration stands in a sequence. -/
  loose : Bool
  deriving DecidableEq, Repr

namespace Expr

mutual

/-- The declarations that an expression adds to the block that it stands in; `loose` tells whether it
stands in a sequence. -/
def placed (loose : Bool) : Expr → List Placed
  | .define name _ _ => [⟨name, loose⟩]
  | .sequence body => placedAll true body
  | _ => []

/-- The declarations that expressions add to the block that they stand in. -/
def placedAll (loose : Bool) : List Expr → List Placed
  | [] => []
  | e :: rest => placed loose e ++ placedAll loose rest

end

mutual

/-- The declarations of the blocks inside an expression, block by block. -/
def inner : Expr → List (List Placed)
  | .define _ _ body => placedAll false body :: innerAll body
  | .ifThen _ yes => placed false yes :: inner yes
  | .ifElse _ yes no => (placed false yes :: inner yes) ++ (placed false no :: inner no)
  | .bind _ body => placedAll false body :: innerAll body
  | .sequence body => innerAll body
  | _ => []

/-- The declarations of the blocks inside expressions one after another. -/
def innerAll : List Expr → List (List Placed)
  | [] => []
  | e :: rest => inner e ++ innerAll rest

end

/-- A single expression declares what it adds to the block. -/
theorem placedAll_singleton (loose : Bool) (e : Expr) : placedAll loose [e] = placed loose e := by
  rw [placedAll, placedAll, List.append_nil]

/-- The blocks inside a single expression. -/
theorem innerAll_singleton (e : Expr) : innerAll [e] = inner e := by
  rw [innerAll, innerAll, List.append_nil]

/-- The declarations of the blocks of a program, block by block. -/
def blocks (program : List Expr) : List (List Placed) :=
  placedAll false program :: innerAll program

end Expr

/-- Statements declare the functions of a block, and the blocks inside them declare the functions of
other blocks. -/
structure Lays (outer : List Placed) (inside : List (List Placed)) (statements : List Stmt) : Prop where
  /-- The functions of the statements themselves. -/
  outer : Stmt.declared statements = outer.map Placed.identifier
  /-- The functions of the blocks inside them. -/
  inside : (Stmt.innerAll statements).map Stmt.declared = inside.map (List.map Placed.identifier)

namespace Lays

variable {outer others : List Placed} {inside insideOthers : List (List Placed)}
  {lines rest : List Stmt}

/-- No statements declare no functions. -/
theorem nil : Lays [] [] [] := by
  constructor <;> rfl

/-- Statements one after another declare the functions of their parts. -/
theorem append (h : Lays outer inside lines) (hrest : Lays others insideOthers rest) :
    Lays (outer ++ others) (inside ++ insideOthers) (lines ++ rest) := by
  constructor
  · rw [Stmt.declared_append, h.outer, hrest.outer, List.map_append]
  · rw [Stmt.innerAll_append, List.map_append, h.inside, hrest.inside, List.map_append]

/-- A single statement declares at most one function, and the blocks inside it are its own. -/
theorem singleton {statement : Stmt}
    (houter : Stmt.declared [statement] = outer.map Placed.identifier)
    (hinside : statement.inner.map Stmt.declared = inside.map (List.map Placed.identifier)) :
    Lays outer inside [statement] := by
  refine ⟨houter, ?_⟩
  rw [Stmt.innerAll, Stmt.innerAll, List.append_nil]
  exact hinside

/-- A block comes in front of the blocks inside it. -/
theorem block (h : Lays outer inside lines) :
    (lines :: Stmt.innerAll lines).map Stmt.declared =
      (outer :: inside).map (List.map Placed.identifier) := by
  rw [List.map_cons, h.outer, h.inside, List.map_cons]

/-- A function declaration belongs to the block around it, and its body is a block. -/
theorem function (h : Lays outer inside lines) (name : Text) (params : List Text) (loose : Bool) :
    Lays [⟨name, loose⟩] (outer :: inside) [.function name params lines] :=
  singleton rfl h.block

/-- The branch of a conditional is a block. -/
theorem ifThen (h : Lays outer inside lines) (test : Text) :
    Lays [] (outer :: inside) [.ifThen test lines] :=
  singleton rfl h.block

/-- Both branches of a conditional are blocks. -/
theorem ifElse (h : Lays outer inside lines) (hrest : Lays others insideOthers rest) (test : Text) :
    Lays [] ((outer :: inside) ++ (others :: insideOthers)) [.ifElse test lines rest] := by
  refine singleton rfl ?_
  rw [Stmt.inner, List.map_append, List.map_append, h.block, hrest.block]

/-- The body of a binding is a block. -/
theorem bind (h : Lays outer inside lines) (bindings : List (Text × Text)) :
    Lays [] (outer :: inside) [.block bindings lines] :=
  singleton rfl h.block

/-- A return declares nothing. -/
theorem ret (text : Text) : Lays [] [] [.ret text] :=
  singleton rfl rfl

/-- What closes statements declares nothing. -/
theorem close (h : Lays outer inside lines) (ending : Ending) :
    Lays outer inside (lines ++ ending.closing) := by
  cases ending with
  | passing => exact (List.append_nil lines).symm ▸ h
  | returning =>
    have happend := h.append (ret Render.noValue)
    rwa [List.append_nil, List.append_nil] at happend

/-- A value declares nothing. -/
theorem value (text : Text) : Lays [] [] (Render.valueStatement text) := by
  rw [Render.valueStatement]
  split
  · exact nil
  · exact singleton rfl rfl

end Lays

/-- Written statements declare what the expressions declare. -/
theorem Render.Writes.lays {lib : Library} {ending : Ending} {exprs : List Expr} {lines : List Stmt}
    (h : Writes lib ending exprs lines) (loose : Bool) :
    Lays (Expr.placedAll loose exprs) (Expr.innerAll exprs) lines := by
  induction h generalizing loose with
  | nil ending => exact Lays.nil.close ending
  | cons _ _ ihFirst ihOthers =>
    have hfirst := ihFirst loose
    rw [Expr.placedAll_singleton, Expr.innerAll_singleton] at hfirst
    exact hfirst.append (ihOthers loose)
  | @define ending name params _ _ _ ih =>
    rw [Expr.placedAll_singleton, Expr.innerAll_singleton]
    exact ((ih false).function name params loose).close ending
  | external _ _ _ => exact .nil
  | externalReturn _ _ _ => constructor <;> rfl
  | @ifThen ending _ _ testText _ _ _ ih =>
    have hyes := ih false
    rw [Expr.placedAll_singleton, Expr.innerAll_singleton] at hyes ⊢
    exact (hyes.ifThen testText).close ending
  | @ifElse _ _ _ _ testText _ _ _ _ _ ihYes ihNo =>
    have hyes := ihYes false
    have hno := ihNo false
    rw [Expr.placedAll_singleton, Expr.innerAll_singleton] at hyes hno ⊢
    exact hyes.ifElse hno testText
  | @bind _ _ _ texts _ _ _ ih =>
    rw [Expr.placedAll_singleton, Expr.innerAll_singleton]
    exact (ih false).bind texts
  | sequence _ ih =>
    rw [Expr.placedAll_singleton, Expr.innerAll_singleton]
    exact ih true
  | @value _ text htext =>
    rcases value_cases htext with ⟨_, rfl⟩ | ⟨_, rfl⟩ | ⟨_, rfl⟩ | ⟨_, _, rfl⟩ <;> exact .value text
  | @ret _ text htext =>
    rcases value_cases htext with ⟨_, rfl⟩ | ⟨_, rfl⟩ | ⟨_, rfl⟩ | ⟨_, _, rfl⟩ <;> exact .ret text

/-- Of two declarations of one identifier the first stands in a sequence. -/
def Placed.Apart (block : List Placed) : Prop :=
  block.Pairwise fun d later => d.identifier = later.identifier → d.loose = true

namespace Expr

mutual

/-- What an expression in a sequence declares stands in a sequence. -/
theorem loose_of_mem_placed : ∀ {e : Expr}, ∀ d ∈ placed true e, d.loose = true
  | .define _ _ _, d, hd => by
    rw [List.mem_singleton.mp hd]
  | .sequence body, d, hd => loose_of_mem_placedAll d hd
  | .string _, _, hd | .number _, _, hd | .symbol _, _, hd | .call _ _, _, hd | .vector _, _, hd
  | .ifThen _ _, _, hd | .ifElse _ _ _, _, hd | .bind _ _, _, hd | .external _ _ _, _, hd
  | .missing, _, hd | .foreign _, _, hd => absurd hd List.not_mem_nil

/-- What the expressions of a sequence declare stands in a sequence. -/
theorem loose_of_mem_placedAll : ∀ {exprs : List Expr}, ∀ d ∈ placedAll true exprs, d.loose = true
  | [], d, hd => absurd hd List.not_mem_nil
  | e :: rest, d, hd => by
    rw [placedAll] at hd
    rcases List.mem_append.mp hd with hfirst | hrest
    · exact loose_of_mem_placed d hfirst
    · exact loose_of_mem_placedAll d hrest

end

/-- What an expression declares outside of sequences, it declares itself. -/
theorem eq_define_of_mem_placed {e : Expr} {d : Placed} (hd : d ∈ placed false e)
    (hloose : d.loose = false) : ∃ params body, e = .define d.identifier params body := by
  cases e with
  | define name params body =>
    rw [placed, List.mem_singleton] at hd
    rw [hd]
    exact ⟨params, body, rfl⟩
  | sequence body =>
    have htrue := loose_of_mem_placedAll d hd
    rw [hloose] at htrue
    cases htrue
  | _ => exact absurd hd List.not_mem_nil

/-- The declarations that a single expression adds to a block are apart. -/
theorem apart_placed (e : Expr) : Placed.Apart (placed false e) := by
  cases e with
  | define name params body => exact List.pairwise_singleton _ _
  | sequence body =>
    exact List.pairwise_of_forall_mem_list fun d hd _ _ _ => loose_of_mem_placedAll d hd
  | _ => exact List.Pairwise.nil

end Expr

/-- No function of a scope has the identifier of any of these declarations, and none is reserved. -/
def Scope.New (scope : Scope) (placed : List Placed) : Prop :=
  ∀ d ∈ placed, scope.hasTarget d.identifier = false ∧ scope.isReserved d.identifier = false

/-- A declared function has its identifier. -/
theorem Scope.hasTarget_withFunction {scope : Scope} {name : Text} (ha : scope.Admits name)
    (d : Declaration) (target : Text) :
    (scope.withFunction name d).hasTarget target = (decide (d.target = target) || scope.hasTarget target) := by
  rw [hasTarget, Dict.values, ha.pairs_withFunction d, List.map_cons, List.any_cons]
  rfl

/-- An identifier that no function has after a resolved form, none has before it, nor does the form
declare it. -/
theorem Resolves.new_before {scope : Scope} {f : Form} {e : Expr} (h : Resolves scope f e)
    {target : Text} (hnew : (Resolve.scopeAfter scope f e).hasTarget target = false) :
    scope.hasTarget target = false ∧ ∀ params body, e ≠ .define target params body := by
  rcases h.scopeAfter_cases with ⟨hsame, hne⟩ | ⟨name, names, exprs, hadmits, he, hafter⟩
  · rw [hsame] at hnew
    exact ⟨hnew, fun params body => hne target params body⟩
  · rw [hafter, Scope.hasTarget_withFunction hadmits, Bool.or_eq_false_iff, decide_eq_false_iff_not]
      at hnew
    refine ⟨hnew.2, fun params body heq => ?_⟩
    rw [he] at heq
    cases heq
    exact hnew.1 rfl

/-- What is new after a resolved form is new before it. -/
theorem Resolves.new_of_scopeAfter {scope : Scope} {f : Form} {e : Expr} (h : Resolves scope f e)
    {placed : List Placed} (hnew : (Resolve.scopeAfter scope f e).New placed) : scope.New placed := by
  intro d hd
  obtain ⟨htarget, hreserved⟩ := hnew d hd
  have hsame : (Resolve.scopeAfter scope f e).reserved = scope.reserved := by
    unfold Resolve.scopeAfter
    split <;> rfl
  rw [Scope.isReserved, hsame] at hreserved
  exact ⟨(h.new_before htarget).1, hreserved⟩

mutual

/-- What a resolved form declares is new, and the blocks inside it are apart. -/
theorem Resolves.apart {scope : Scope} (loose : Bool) :
    ∀ {f : Form} {e : Expr}, Resolves scope f e →
      scope.New (e.placed loose) ∧ ∀ block ∈ e.inner, Placed.Apart block
  | _, _, .define _ admits _ inside => by
    obtain ⟨-, hbody, hinner⟩ := inside.apart
    exact ⟨List.forall_mem_singleton.mpr ⟨admits.newTarget, admits.unreserved⟩,
      List.forall_mem_cons.mpr ⟨hbody, hinner⟩⟩
  | _, _, .ifThen _ _ _ yesBranch => by
    obtain ⟨-, hinner⟩ := yesBranch.apart false
    exact ⟨List.forall_mem_nil _, List.forall_mem_cons.mpr ⟨Expr.apart_placed _, hinner⟩⟩
  | _, _, .ifElse _ _ _ yesBranch noBranch => by
    obtain ⟨-, hyes⟩ := yesBranch.apart false
    obtain ⟨-, hno⟩ := noBranch.apart false
    exact ⟨List.forall_mem_nil _, List.forall_mem_append.mpr
      ⟨List.forall_mem_cons.mpr ⟨Expr.apart_placed _, hyes⟩,
        List.forall_mem_cons.mpr ⟨Expr.apart_placed _, hno⟩⟩⟩
  | _, _, .bind _ _ _ inside => by
    obtain ⟨-, hbody, hinner⟩ := inside.apart
    exact ⟨List.forall_mem_nil _, List.forall_mem_cons.mpr ⟨hbody, hinner⟩⟩
  | _, _, .sequence _ inside => inside.apart
  | _, _, .string => ⟨List.forall_mem_nil _, List.forall_mem_nil _⟩
  | _, _, .number => ⟨List.forall_mem_nil _, List.forall_mem_nil _⟩
  | _, _, .symbol _ => ⟨List.forall_mem_nil _, List.forall_mem_nil _⟩
  | _, _, .vector _ => ⟨List.forall_mem_nil _, List.forall_mem_nil _⟩
  | _, _, .call _ _ _ _ => ⟨List.forall_mem_nil _, List.forall_mem_nil _⟩

/-- What the forms of a sequence declare is new, since none of them sees the others. -/
theorem ResolvesStatements.apart {scope : Scope} :
    ∀ {forms : List Form} {exprs : List Expr}, ResolvesStatements scope forms exprs →
      scope.New (Expr.placedAll true exprs) ∧ ∀ block ∈ Expr.innerAll exprs, Placed.Apart block
  | _, _, .nil => ⟨List.forall_mem_nil _, List.forall_mem_nil _⟩
  | _, _, .cons first later => by
    obtain ⟨hfirst, hfirstInner⟩ := first.apart true
    obtain ⟨hlater, hlaterInner⟩ := later.apart
    exact ⟨List.forall_mem_append.mpr ⟨hfirst, hlater⟩,
      List.forall_mem_append.mpr ⟨hfirstInner, hlaterInner⟩⟩

/-- What the forms of a block declare is new and apart: those after a declaration see it, unless it
stands in a sequence. -/
theorem ResolvesSequence.apart {scope : Scope} :
    ∀ {forms : List Form} {exprs : List Expr} {final : Scope},
      ResolvesSequence scope forms exprs final →
        scope.New (Expr.placedAll false exprs) ∧ Placed.Apart (Expr.placedAll false exprs) ∧
          ∀ block ∈ Expr.innerAll exprs, Placed.Apart block
  | _, _, _, .nil => ⟨List.forall_mem_nil _, List.Pairwise.nil, List.forall_mem_nil _⟩
  | _, _, _, .cons first later => by
    obtain ⟨hfirst, hfirstInner⟩ := first.apart false
    obtain ⟨hlater, hlaterApart, hlaterInner⟩ := later.apart
    refine ⟨List.forall_mem_append.mpr ⟨hfirst, first.new_of_scopeAfter hlater⟩,
      List.pairwise_append.mpr ⟨Expr.apart_placed _, hlaterApart, ?_⟩,
      List.forall_mem_append.mpr ⟨hfirstInner, hlaterInner⟩⟩
    -- A declaration outside of sequences is the form itself, so the later forms see its identifier.
    intro d hd other hother hsame
    by_contra hloose
    obtain ⟨params, body, he⟩ := Expr.eq_define_of_mem_placed hd (Bool.eq_false_iff.mpr hloose)
    rw [hsame] at he
    exact (first.new_before (hlater other hother).1).2 params body he

end

/-- The blocks of a written program declare the functions of the blocks of its expressions, and of two
functions with the same identifier in one block the first is declared in a sequence. -/
theorem render_blocks_apart {lib : Library} {scope next : Scope} {forms : List Form}
    {exprs : List Expr} {text : Text} (hresolve : resolve scope forms = .ok (exprs, next))
    (hrender : render lib exprs = .ok text) :
    ∃ program : List Stmt, Render.allStatements lib exprs = .ok program ∧ text = Stmt.print program ∧
      (Stmt.blocks program).map Stmt.declared =
        (Expr.blocks exprs).map (List.map Placed.identifier) ∧
      ∀ block ∈ Expr.blocks exprs,
        block.Pairwise fun d later => d.identifier = later.identifier → d.loose = true := by
  obtain ⟨program, hprogram, htext⟩ := Fallible.bind_eq_ok.mp hrender
  cases htext
  obtain ⟨-, hprogramApart, hinner⟩ := (Resolve.sequence_derivation hresolve).apart
  have hlays := (Render.writes_allStatements hprogram).lays false
  exact ⟨program, hprogram, rfl, hlays.block, List.forall_mem_cons.mpr ⟨hprogramApart, hinner⟩⟩

/-- The form of a function with a number as its body. -/
def constantForm (name value : Text) : Form :=
  .group .round
    [.leaf .atom "defn" default, .leaf .atom name default, .group .square [] default,
      .leaf .number value default] default

/-- The forms of a function that declares another in both branches of a conditional, in a sequence and
after it. -/
def redeclaring : List Form :=
  [.group .round
    [.leaf .atom "defn" default, .leaf .atom "g" default,
      .group .square [.leaf .atom "x" default] default,
      .group .round
        [.leaf .atom "if" default, .leaf .atom "x" default, constantForm "h" "1",
          constantForm "h" "2"] default,
      .group .round [.leaf .atom "do" default, constantForm "h" "3"] default,
      constantForm "h" "4"] default]

/-- The expressions that these forms stand for. -/
def redeclaringExprs : List Expr :=
  [.define "g" ["x"]
    [.ifElse (.symbol "x") (.define "h" [] [.number "1"]) (.define "h" [] [.number "2"]),
      .sequence [.define "h" [] [.number "3"]], .define "h" [] [.number "4"]]]

/-- The body of the function declares the other one twice, first in the sequence; the branches declare it
once each. -/
theorem redeclaring_apart :
    ∃ next text program,
      resolve (.ofLibrary subtraction) redeclaring = .ok (redeclaringExprs, next) ∧
      render subtraction redeclaringExprs = .ok text ∧ text = Stmt.print program ∧
      (Stmt.blocks program).map Stmt.declared =
        ([["g"], ["h", "h"], ["h"], [], ["h"], [], [], []] : List (List Text)) ∧
      Expr.blocks redeclaringExprs =
        [[⟨"g", false⟩], [⟨"h", true⟩, ⟨"h", false⟩], [⟨"h", false⟩], [], [⟨"h", false⟩], [], [], []] := by
  have hresolve : ∃ next, resolve (.ofLibrary subtraction) redeclaring =
      .ok (redeclaringExprs, next) := by
    rw [Scope.ofLibrary, reserved_subtraction]
    exact ⟨_, rfl⟩
  have hrender : ∃ text, render subtraction redeclaringExprs = .ok text := ⟨_, rfl⟩
  obtain ⟨next, hnext⟩ := hresolve
  obtain ⟨text, htext⟩ := hrender
  obtain ⟨program, -, hprint, hblocks, -⟩ := render_blocks_apart hnext htext
  exact ⟨next, text, program, hnext, htext, hprint, hblocks, rfl⟩

/-- The forms of a sequence that declares a function twice. -/
def repeating : List Form :=
  [.group .round [.leaf .atom "do" default, constantForm "f" "1", constantForm "f" "2"] default]

/-- The expressions that these forms stand for. -/
def repeatingExprs : List Expr :=
  [.sequence [.define "f" [] [.number "1"], .define "f" [] [.number "2"]]]

/-- A sequence that declares a function twice is resolved and written, and the program declares the
function twice. -/
theorem repeating_not_nodup :
    ∃ next program, resolve (.ofLibrary subtraction) repeating = .ok (repeatingExprs, next) ∧
      Render.allStatements subtraction repeatingExprs = .ok program ∧
      ∃ block ∈ Stmt.blocks program, ¬ (Stmt.declared block).Nodup := by
  have hresolve : ∃ next, resolve (.ofLibrary subtraction) repeating = .ok (repeatingExprs, next) := by
    rw [Scope.ofLibrary, reserved_subtraction]
    exact ⟨_, rfl⟩
  obtain ⟨next, hnext⟩ := hresolve
  refine ⟨next, _, hnext, rfl, _, List.mem_cons_self, ?_⟩
  decide

end SwiftForms
