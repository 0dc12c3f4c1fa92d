import Mathlib.Data.List.Forall2
import SwiftForms.Proofs.Swift.Rows

/-!
# What functions return

The ways through a function body are compared on both sides of writing. A way through expressions tells
which tests it meets, with which outcomes, and the form that it reaches last, if that form has a value. A
way through statements tells the tests and the value that it returns. Main statement: every way through a
written function ends in a return, of the value of the form that is reached last or of `false` where that
form has none; nothing follows a return in its block, and outside of functions nothing returns.
-/

namespace SwiftForms

/-- A way through forms or statements: the tests that it meets with their outcomes, and the value that it
ends with, if there is one. -/
structure Path (α : Type) where
  /-- The tests and their outcomes, in order. -/
  tests : List (α × Bool)
  /-- The value at the end. -/
  last : Option α
  deriving DecidableEq, Repr

namespace Path

variable {α : Type}

/-- A way without tests or value. -/
def empty : Path α :=
  ⟨[], none⟩

/-- A way behind a test. -/
def fork (test : α) (outcome : Bool) (path : Path α) : Path α :=
  ⟨(test, outcome) :: path.tests, path.last⟩

/-- A way behind the tests of another. -/
def after (earlier : Path α) (path : Path α) : Path α :=
  ⟨earlier.tests ++ path.tests, path.last⟩

/-- The ways that go on behind a way, unless it has ended with a value. -/
def onward (later : List (Path α)) (path : Path α) : List (Path α) :=
  match path.last with
  | some _ => [path]
  | none => later.map path.after

/-- A way that has ended goes no further. -/
theorem onward_of_some {path : Path α} {value : α} (h : path.last = some value)
    (later : List (Path α)) : onward later path = [path] := by
  rw [onward, h]

/-- A way that has not ended goes on. -/
theorem onward_of_none {path : Path α} (h : path.last = none) (later : List (Path α)) :
    onward later path = later.map path.after := by
  rw [onward, h]

/-- Ways that have all ended go no further. -/
theorem flatMap_onward {paths : List (Path α)} (h : ∀ path ∈ paths, ∃ value, path.last = some value)
    (later : List (Path α)) : paths.flatMap (onward later) = paths := by
  have hended : ∀ path ∈ paths, onward later path = [path] := by
    intro path hpath
    obtain ⟨value, hvalue⟩ := h path hpath
    exact onward_of_some hvalue later
  rw [List.flatMap_congr hended, List.flatMap_singleton']

/-- Nothing more to go changes nothing. -/
theorem onward_empty (path : Path α) : onward [empty] path = [path] := by
  obtain ⟨tests, last⟩ := path
  cases last with
  | some value => rfl
  | none => simp [onward, after, empty]

/-- The ways on from a way behind another are those on from it, behind the other. -/
theorem onward_after (later : List (Path α)) (earlier path : Path α) :
    onward later (earlier.after path) = (onward later path).map earlier.after := by
  obtain ⟨tests, last⟩ := path
  cases last with
  | some value => rfl
  | none => simp [onward, after, Function.comp_def]

/-- Going on twice is going on along the ways that go on. -/
theorem onward_flatMap_onward (middle later : List (Path α)) (path : Path α) :
    onward (middle.flatMap (onward later)) path = (onward middle path).flatMap (onward later) := by
  cases hlast : path.last with
  | some value =>
    rw [onward_of_some hlast, onward_of_some hlast, List.flatMap_singleton, onward_of_some hlast]
  | none =>
    rw [onward_of_none hlast, onward_of_none hlast, List.map_flatMap, List.flatMap_map]
    exact List.flatMap_congr fun p _ => (onward_after later path p).symm

end Path

/-- A function with its identifier, its parameters and its body. -/
structure Routine (α : Type) where
  /-- Its identifier. -/
  name : Text
  /-- Its parameters. -/
  params : List Text
  /-- Its body. -/
  body : List α
  deriving Repr

namespace Stmt

mutual

/-- The ways through a statement. A function declaration is passed by. -/
def paths : Stmt → List (Path Text)
  | .ret text => [⟨[], some text⟩]
  | .ifThen test yes => (pathsAll yes).map (.fork test true) ++ [.fork test false .empty]
  | .ifElse test yes no => (pathsAll yes).map (.fork test true) ++ (pathsAll no).map (.fork test false)
  | .block _ body => pathsAll body
  | _ => [.empty]

/-- The ways through statements one after another, each up to its first return. -/
def pathsAll : List Stmt → List (Path Text)
  | [] => [.empty]
  | statement :: rest => (paths statement).flatMap (Path.onward (pathsAll rest))

end

mutual

/-- The functions that are declared anywhere in a statement. -/
def routines : Stmt → List (Routine Stmt)
  | .function name params body => ⟨name, params, body⟩ :: routinesAll body
  | .ifThen _ yes => routinesAll yes
  | .ifElse _ yes no => routinesAll yes ++ routinesAll no
  | .block _ body => routinesAll body
  | _ => []

/-- The functions that are declared anywhere in statements. -/
def routinesAll : List Stmt → List (Routine Stmt)
  | [] => []
  | statement :: rest => routines statement ++ routinesAll rest

end

mutual

/-- The returns in a statement, outside of the functions that it declares. -/
def returned : Stmt → List Text
  | .ret text => [text]
  | .ifThen _ yes => returnedAll yes
  | .ifElse _ yes no => returnedAll yes ++ returnedAll no
  | .block _ body => returnedAll body
  | _ => []

/-- The returns in statements, outside of the functions that they declare. -/
def returnedAll : List Stmt → List Text
  | [] => []
  | statement :: rest => returned statement ++ returnedAll rest

end

/-- Nothing follows a return in a block. -/
def EndsAtReturn (block : List Stmt) : Prop :=
  ∀ before value after, block = before ++ .ret value :: after → after = []

/-- The ways through statements one after another go on from those through the first ones. -/
theorem pathsAll_append (lines rest : List Stmt) :
    pathsAll (lines ++ rest) = (pathsAll lines).flatMap (Path.onward (pathsAll rest)) := by
  induction lines with
  | nil =>
    rw [List.nil_append, pathsAll, List.flatMap_singleton, Path.onward_of_none rfl]
    exact (List.map_id _).symm
  | cons statement others ih =>
    rw [List.cons_append, pathsAll, pathsAll, ih, List.flatMap_assoc]
    exact List.flatMap_congr fun path _ => Path.onward_flatMap_onward _ _ path

/-- The ways through a single statement. -/
theorem pathsAll_singleton (statement : Stmt) : pathsAll [statement] = paths statement := by
  rw [pathsAll, pathsAll]
  calc (paths statement).flatMap (Path.onward [.empty])
      = (paths statement).flatMap (fun path => [path]) :=
        List.flatMap_congr fun path _ => Path.onward_empty path
    _ = paths statement := List.flatMap_singleton' _

/-- The functions in statements are those in the parts. -/
theorem routinesAll_append (lines rest : List Stmt) :
    routinesAll (lines ++ rest) = routinesAll lines ++ routinesAll rest :=
  gathered_append rfl (fun _ _ => rfl) lines rest

/-- The functions in a single statement. -/
theorem routinesAll_singleton (statement : Stmt) : routinesAll [statement] = routines statement := by
  rw [routinesAll, routinesAll, List.append_nil]

/-- The returns in statements are those in the parts. -/
theorem returnedAll_append (lines rest : List Stmt) :
    returnedAll (lines ++ rest) = returnedAll lines ++ returnedAll rest :=
  gathered_append rfl (fun _ _ => rfl) lines rest

/-- The returns in a single statement. -/
theorem returnedAll_singleton (statement : Stmt) : returnedAll [statement] = returned statement := by
  rw [returnedAll, returnedAll, List.append_nil]

/-- Statements without returns in them are no returns. -/
theorem ret_not_mem {lines : List Stmt} (h : returnedAll lines = []) (value : Text) :
    .ret value ∉ lines := by
  induction lines with
  | nil => exact List.not_mem_nil
  | cons statement rest ih =>
    rw [returnedAll, List.append_eq_nil_iff] at h
    intro hmem
    rcases List.mem_cons.mp hmem with rfl | hrest
    · exact List.cons_ne_nil _ _ h.1
    · exact ih h.2 hrest

/-- In a single statement nothing follows a return. -/
theorem endsAtReturn_singleton (statement : Stmt) : EndsAtReturn [statement] := by
  intro before value after hblock
  cases before with
  | nil => exact (List.cons.inj hblock).2.symm
  | cons first others =>
    have hnil := (List.cons.inj hblock).2
    exact absurd hnil.symm (List.append_ne_nil_of_right_ne_nil others (List.cons_ne_nil _ _))

/-- Statements that are no returns may come in front of a block. -/
theorem EndsAtReturn.append {lines rest : List Stmt} (hlines : ∀ value, .ret value ∉ lines)
    (hrest : EndsAtReturn rest) : EndsAtReturn (lines ++ rest) := by
  intro before value after hblock
  rcases List.append_eq_append_iff.mp hblock with ⟨more, -, hmore⟩ | ⟨more, hsplit, hmore⟩
  · exact hrest more value after hmore
  · cases more with
    | nil => exact hrest [] value after hmore.symm
    | cons first others =>
      obtain ⟨rfl, -⟩ := List.cons.inj hmore
      exact absurd (hsplit ▸ List.mem_append_right before List.mem_cons_self) (hlines value)

end Stmt

namespace Expr

mutual

/-- The ways through an expression, each with the form that it reaches last. That form has a value,
unless it is a declaration, an empty sequence or a conditional whose branch is left out. -/
def routes : Expr → List (Path Expr)
  | .ifThen test yes => (routes yes).map (.fork test true) ++ [.fork test false .empty]
  | .ifElse test yes no => (routes yes).map (.fork test true) ++ (routes no).map (.fork test false)
  | .bind _ body => routesAll body
  | .sequence body => routesAll body
  | .define _ _ _ => [.empty]
  | .external _ _ _ => [.empty]
  | e => [⟨[], some e⟩]

/-- The ways through expressions one after another. -/
def routesAll : List Expr → List (Path Expr)
  | [] => [.empty]
  | [e] => routes e
  | e :: next :: rest => (routes e).flatMap fun route => (routesAll (next :: rest)).map route.after

end

mutual

/-- The functions that are declared anywhere in an expression. -/
def routines : Expr → List (Routine Expr)
  | .define name params body => ⟨name, params, body⟩ :: routinesAll body
  | .ifThen _ yes => routines yes
  | .ifElse _ yes no => routines yes ++ routines no
  | .bind _ body => routinesAll body
  | .sequence body => routinesAll body
  | _ => []

/-- The functions that are declared anywhere in expressions. -/
def routinesAll : List Expr → List (Routine Expr)
  | [] => []
  | e :: rest => routines e ++ routinesAll rest

end

/-- The functions that are declared in a single expression. -/
theorem routinesAll_singleton (e : Expr) : routinesAll [e] = routines e := by
  rw [routinesAll, routinesAll, List.append_nil]

end Expr

/-- How a way through statements ends, if the way through the expressions reaches `last`. -/
def Ending.Ends (lib : Library) : Ending → (last : Option Expr) → (exit : Option Text) → Prop
  | .passing, _, exit => exit = none
  | .returning, some e, exit => ∃ text, Render.value lib e = .ok text ∧ exit = some text
  | .returning, none, exit => exit = some Render.noValue

/-- A way through statements meets the tests of a way through expressions, and ends as it should. -/
structure Path.Written (lib : Library) (ending : Ending) (route : Path Expr) (path : Path Text) :
    Prop where
  /-- The tests are written one by one, and have the same outcomes. -/
  tests : List.Forall₂
    (fun asked written => Render.value lib asked.1 = .ok written.1 ∧ asked.2 = written.2)
    route.tests path.tests
  /-- How it ends. -/
  last : ending.Ends lib route.last path.last

/-- A written function has the identifier and the parameters of a function, and every way through it
returns what it should. -/
structure Routine.Returns (lib : Library) (source : Routine Expr) (written : Routine Stmt) : Prop where
  /-- The identifier. -/
  name : written.name = source.name
  /-- The parameters. -/
  params : written.params = source.params
  /-- The ways through the body. -/
  paths : List.Forall₂ (Path.Written lib .returning) (Expr.routesAll source.body)
    (Stmt.pathsAll written.body)

namespace Path.Written

variable {lib : Library} {ending : Ending} {route : Path Expr} {path : Path Text}

/-- A way without tests. -/
theorem leaf {last : Option Expr} {exit : Option Text} (h : ending.Ends lib last exit) :
    Written lib ending ⟨[], last⟩ ⟨[], exit⟩ :=
  ⟨.nil, h⟩

/-- A way behind a test. -/
theorem fork {test : Expr} {text : Text} (htest : Render.value lib test = .ok text) (outcome : Bool)
    (h : Written lib ending route path) :
    Written lib ending (route.fork test outcome) (path.fork text outcome) :=
  ⟨.cons ⟨htest, rfl⟩ h.tests, h.last⟩

/-- A way behind the tests of another. -/
theorem after {other : Ending} {earlier : Path Expr} {before : Path Text}
    (hearlier : Written lib other earlier before) (h : Written lib ending route path) :
    Written lib ending (earlier.after route) (before.after path) :=
  ⟨List.rel_append hearlier.tests h.tests, h.last⟩

/-- A way that returns has ended. -/
theorem exists_last (h : Written lib .returning route path) : ∃ value, path.last = some value := by
  have hends := h.last
  cases hroute : route.last with
  | none =>
    rw [hroute] at hends
    exact ⟨_, hends⟩
  | some e =>
    rw [hroute] at hends
    obtain ⟨text, -, htext⟩ := hends
    exact ⟨text, htext⟩

end Path.Written

/-- Ways that return have ended. -/
theorem exists_last_of_mem {lib : Library} {routes : List (Path Expr)} {paths : List (Path Text)}
    (h : List.Forall₂ (Path.Written lib .returning) routes paths) :
    ∀ path ∈ paths, ∃ value, path.last = some value := by
  induction h with
  | nil => exact List.forall_mem_nil _
  | cons hpath _ ih => exact List.forall_mem_cons.mpr ⟨hpath.exists_last, ih⟩

/-- Statements that go the ways of expressions: they end as they should, the functions in them return
what they should, and nothing follows a return in a block. -/
structure Follows (lib : Library) (ending : Ending) (routes : List (Path Expr))
    (routines : List (Routine Expr)) (lines : List Stmt) : Prop where
  /-- The ways through the statements. -/
  paths : List.Forall₂ (Path.Written lib ending) routes (Stmt.pathsAll lines)
  /-- The functions in them. -/
  routines : List.Forall₂ (Routine.Returns lib) routines (Stmt.routinesAll lines)
  /-- The blocks in them, and they themselves. -/
  blocks : ∀ block ∈ Stmt.blocks lines, Stmt.EndsAtReturn block
  /-- Where something follows, nothing returns. -/
  returned : ending = .passing → Stmt.returnedAll lines = []

namespace Follows

variable {lib : Library} {ending : Ending} {routes others : List (Path Expr)}
  {routines more : List (Routine Expr)} {lines rest : List Stmt}

/-- A single statement follows the ways that it has. -/
theorem singleton {statement : Stmt}
    (hpaths : List.Forall₂ (Path.Written lib ending) routes statement.paths)
    (hroutines : List.Forall₂ (Routine.Returns lib) routines statement.routines)
    (hinner : ∀ block ∈ statement.inner, Stmt.EndsAtReturn block)
    (hreturned : ending = .passing → statement.returned = []) :
    Follows lib ending routes routines [statement] where
  paths := by
    rw [Stmt.pathsAll_singleton]
    exact hpaths
  routines := by
    rw [Stmt.routinesAll_singleton]
    exact hroutines
  blocks := by
    rw [Stmt.blocks, Stmt.innerAll, Stmt.innerAll, List.append_nil]
    exact List.forall_mem_cons.mpr ⟨Stmt.endsAtReturn_singleton statement, hinner⟩
  returned := by
    rw [Stmt.returnedAll_singleton]
    exact hreturned

/-- No statements, and one way through them. -/
theorem nil {last : Option Expr} : Follows lib .passing [⟨[], last⟩] [] [] where
  paths := .cons (.leaf rfl) .nil
  routines := .nil
  blocks := List.forall_mem_singleton.mpr fun before _ _ hblock =>
    absurd hblock.symm (List.append_ne_nil_of_right_ne_nil before (List.cons_ne_nil _ _))
  returned := fun _ => rfl

/-- Statements that something may follow, and what follows them. -/
theorem append (h : Follows lib .passing routes routines lines)
    (hrest : Follows lib ending others more rest) :
    Follows lib ending (routes.flatMap fun route => others.map route.after) (routines ++ more)
      (lines ++ rest) where
  paths := by
    rw [Stmt.pathsAll_append]
    refine List.rel_flatMap h.paths fun route path hpath => ?_
    rw [Path.onward_of_none hpath.last]
    exact List.rel_map (fun _ _ hlater => hpath.after hlater) hrest.paths
  routines := by
    rw [Stmt.routinesAll_append]
    exact List.rel_append h.routines hrest.routines
  blocks := by
    obtain ⟨-, hlines⟩ := List.forall_mem_cons.mp h.blocks
    obtain ⟨hlast, hinside⟩ := List.forall_mem_cons.mp hrest.blocks
    have hfront : ∀ value, .ret value ∉ lines := Stmt.ret_not_mem (h.returned rfl)
    rw [Stmt.blocks, Stmt.innerAll_append]
    exact List.forall_mem_cons.mpr
      ⟨Stmt.EndsAtReturn.append hfront hlast, List.forall_mem_append.mpr ⟨hlines, hinside⟩⟩
  returned := by
    intro hending
    rw [Stmt.returnedAll_append, h.returned rfl, hrest.returned hending]
    rfl

/-- A return of a value. -/
theorem ret {e : Expr} {text : Text} (h : Render.value lib e = .ok text) :
    Follows lib .returning [⟨[], some e⟩] [] [.ret text] :=
  singleton (.cons (.leaf ⟨text, h, rfl⟩) .nil) .nil (List.forall_mem_nil _) nofun

/-- A return without a value. -/
theorem noValue : Follows lib .returning [.empty] [] [.ret Render.noValue] :=
  singleton (.cons (.leaf rfl) .nil) .nil (List.forall_mem_nil _) nofun

/-- What closes statements without a value. -/
theorem closing (ending : Ending) : Follows lib ending [.empty] [] ending.closing := by
  cases ending with
  | passing => exact nil
  | returning => exact noValue

/-- A value as a statement. -/
theorem value {last : Option Expr} (text : Text) :
    Follows lib .passing [⟨[], last⟩] [] (Render.valueStatement text) := by
  rw [Render.valueStatement]
  split
  · exact nil
  · exact singleton (.cons (.leaf rfl) .nil) .nil (List.forall_mem_nil _) fun _ => rfl

/-- A function whose body returns. -/
theorem function {body : List Expr}
    (h : Follows lib .returning (Expr.routesAll body) (Expr.routinesAll body) lines) (name : Text)
    (params : List Text) :
    Follows lib .passing [.empty] (⟨name, params, body⟩ :: Expr.routinesAll body)
      [.function name params lines] :=
  singleton (.cons (.leaf rfl) .nil) (.cons ⟨rfl, rfl, h.paths⟩ h.routines) h.blocks fun _ => rfl

/-- A conditional with one branch. -/
theorem ifThen {test : Expr} {text : Text} (htest : Render.value lib test = .ok text)
    (h : Follows lib .passing routes routines lines) :
    Follows lib .passing (routes.map (.fork test true) ++ [.fork test false .empty]) routines
      [.ifThen text lines] := by
  refine singleton (List.rel_append ?_ ?_) h.routines h.blocks h.returned
  · exact List.rel_map (fun _ _ hpath => hpath.fork htest true) h.paths
  · have hleft : Path.Written lib .passing .empty .empty := .leaf rfl
    exact .cons (hleft.fork htest false) .nil

/-- A conditional with one branch that returns, and a return where the branch is left out. -/
theorem ifThen_ret {test : Expr} {text : Text} (htest : Render.value lib test = .ok text)
    (h : Follows lib .returning routes routines lines) :
    Follows lib .returning (routes.map (.fork test true) ++ [.fork test false .empty]) routines
      [.ifThen text lines, .ret Render.noValue] where
  paths := by
    have htaken : ∀ path ∈ (Stmt.pathsAll lines).map (Path.fork text true),
        ∃ value, path.last = some value :=
      List.forall_mem_map.mpr (exists_last_of_mem h.paths)
    have hleft : Path.Written lib .returning .empty ⟨[], some Render.noValue⟩ := .leaf rfl
    rw [Stmt.pathsAll, Stmt.pathsAll_singleton, Stmt.paths, Stmt.paths, List.flatMap_append,
      Path.flatMap_onward htaken]
    refine List.rel_append ?_ (.cons (hleft.fork htest false) .nil)
    exact List.rel_map (fun _ _ hpath => hpath.fork htest true) h.paths
  routines := by
    rw [Stmt.routinesAll, Stmt.routinesAll_singleton]
    exact (List.append_nil _).symm ▸ h.routines
  blocks := by
    have hfront : ∀ value, Stmt.ret value ∉ [.ifThen text lines] := fun value => by simp
    have hinner : Stmt.innerAll [.ifThen text lines, .ret Render.noValue] = Stmt.blocks lines := by
      simp only [Stmt.innerAll, Stmt.inner, List.append_nil, Stmt.blocks]
    rw [Stmt.blocks, hinner]
    exact List.forall_mem_cons.mpr
      ⟨Stmt.EndsAtReturn.append hfront (Stmt.endsAtReturn_singleton _), h.blocks⟩
  returned := nofun

/-- A conditional with two branches. -/
theorem ifElse {test : Expr} {text : Text} (htest : Render.value lib test = .ok text)
    (h : Follows lib ending routes routines lines) (hrest : Follows lib ending others more rest) :
    Follows lib ending (routes.map (.fork test true) ++ others.map (.fork test false))
      (routines ++ more) [.ifElse text lines rest] := by
  refine singleton (List.rel_append ?_ ?_) (List.rel_append h.routines hrest.routines)
    (List.forall_mem_append.mpr ⟨h.blocks, hrest.blocks⟩) ?_
  · exact List.rel_map (fun _ _ hpath => hpath.fork htest true) h.paths
  · exact List.rel_map (fun _ _ hpath => hpath.fork htest false) hrest.paths
  · intro hending
    rw [Stmt.returned, h.returned hending, hrest.returned hending]
    rfl

/-- A block. -/
theorem block (h : Follows lib ending routes routines lines) (bindings : List (Text × Text)) :
    Follows lib ending routes routines [.block bindings lines] :=
  singleton h.paths h.routines h.blocks h.returned

end Follows

/-- Written statements go the ways of the expressions. -/
theorem Render.Writes.follows {lib : Library} {ending : Ending} {exprs : List Expr}
    {lines : List Stmt} (h : Writes lib ending exprs lines) :
    Follows lib ending (Expr.routesAll exprs) (Expr.routinesAll exprs) lines := by
  induction h with
  | nil ending => exact .closing ending
  | cons _ _ ihFirst ihOthers =>
    rw [Expr.routinesAll_singleton] at ihFirst
    exact ihFirst.append ihOthers
  | @define ending name params _ _ _ ih =>
    have hfunction := (ih.function name params).append (.closing ending)
    rw [Expr.routinesAll_singleton]
    rwa [List.append_nil] at hfunction
  | external _ _ _ => exact .nil
  | externalReturn _ _ _ =>
    have hblank : Follows lib .passing [.empty] [] [.blank] :=
      .singleton (.cons (.leaf rfl) .nil) .nil (List.forall_mem_nil _) fun _ => rfl
    exact hblank.append .noValue
  | @ifThen ending _ _ _ _ htest _ ih =>
    rw [Expr.routinesAll_singleton] at ih ⊢
    cases ending with
    | passing => exact ih.ifThen htest
    | returning => exact ih.ifThen_ret htest
  | ifElse htest _ _ ihYes ihNo =>
    rw [Expr.routinesAll_singleton] at ihYes ihNo ⊢
    exact ihYes.ifElse htest ihNo
  | @bind _ _ _ texts _ _ _ ih =>
    rw [Expr.routinesAll_singleton]
    exact ih.block texts
  | sequence _ ih =>
    rw [Expr.routinesAll_singleton]
    exact ih
  | @value _ text htext =>
    rcases value_cases htext with ⟨_, rfl⟩ | ⟨_, rfl⟩ | ⟨_, rfl⟩ | ⟨_, _, rfl⟩ <;> exact .value text
  | ret htext =>
    rcases value_cases htext with ⟨_, rfl⟩ | ⟨_, rfl⟩ | ⟨_, rfl⟩ | ⟨_, _, rfl⟩ <;> exact .ret htext

/-- Over a library whose targets have no newline, the text of a resolved program is laid out in rows
of one line each, none of them empty. The functions in it are those of the expressions, one by one, and
every way through the body of one returns the value of the form that is reached last, or `false` where
that form has none. Nothing follows a return in its block, and outside of functions nothing returns. -/
theorem render_returns {lib : Library} {scope next : Scope} {source text : Text} {forms : List Form}
    {exprs : List Expr} (htargets : ∀ b ∈ lib.builtins, newline ∉ b.target)
    (hscope : Scope.Reachable lib scope) (hread : read source = .ok forms)
    (hresolve : resolve scope forms = .ok (exprs, next)) (hrender : render lib exprs = .ok text) :
    ∃ program : List Stmt, Render.allStatements lib exprs = .ok program ∧
      text = (Stmt.rowsAll 0 program).flatMap Row.print ∧
      (∀ row ∈ Stmt.rowsAll 0 program, newline ∉ row.text ∧ row.text ≠ []) ∧
      List.Forall₂ (Routine.Returns lib) (Expr.routinesAll exprs) (Stmt.routinesAll program) ∧
      (∀ block ∈ Stmt.blocks program, Stmt.EndsAtReturn block) ∧ Stmt.returnedAll program = [] := by
  obtain ⟨program, hprogram, htext⟩ := Fallible.bind_eq_ok.mp hrender
  cases htext
  have hsourced := allSourced_of_resolve hscope hread hresolve
  have hwrites := Render.writes_allStatements hprogram
  have htexts : ∀ t ∈ Stmt.textsAll program, t.OneLine :=
    (inherited_oneLine htargets).written hwrites hsourced
  have hfollows := hwrites.follows
  refine ⟨program, hprogram, Stmt.print_eq_rows htexts, ?_, hfollows.routines, hfollows.blocks,
    hfollows.returned rfl⟩
  intro row hrow
  have hline := Stmt.oneLine_of_mem_rowsAll htexts row hrow
  exact ⟨hline.noNewline, hline.ne_nil⟩

/-- A function with a conditional that does nothing in front of one that returns, and a difference after
it. -/
def branching : Text :=
  "(defn f [x] (if x (do)) (if x (let [y 2] (- x y)))) (- 3 1)"

/-- The forms of that program. -/
def branchingForms : List Form :=
  [.group .round
    [.leaf .atom "defn" ⟨1, 1, 2⟩, .leaf .atom "f" ⟨6, 1, 7⟩,
      .group .square [.leaf .atom "x" ⟨9, 1, 10⟩] ⟨8, 1, 9⟩,
      .group .round
        [.leaf .atom "if" ⟨13, 1, 14⟩, .leaf .atom "x" ⟨16, 1, 17⟩,
          .group .round [.leaf .atom "do" ⟨19, 1, 20⟩] ⟨18, 1, 19⟩] ⟨12, 1, 13⟩,
      .group .round
        [.leaf .atom "if" ⟨25, 1, 26⟩, .leaf .atom "x" ⟨28, 1, 29⟩,
          .group .round
            [.leaf .atom "let" ⟨31, 1, 32⟩,
              .group .square [.leaf .atom "y" ⟨36, 1, 37⟩, .leaf .number "2" ⟨38, 1, 39⟩] ⟨35, 1, 36⟩,
              .group .round
                [.leaf .atom "-" ⟨42, 1, 43⟩, .leaf .atom "x" ⟨44, 1, 45⟩, .leaf .atom "y" ⟨46, 1, 47⟩]
                ⟨41, 1, 42⟩] ⟨30, 1, 31⟩] ⟨24, 1, 25⟩] ⟨0, 1, 1⟩,
    .group .round
      [.leaf .atom "-" ⟨53, 1, 54⟩, .leaf .number "3" ⟨55, 1, 56⟩, .leaf .number "1" ⟨57, 1, 58⟩]
      ⟨52, 1, 53⟩]

/-- The difference that the function returns. -/
def branchingValue : Expr :=
  .call "-" [.symbol "x", .symbol "y"]

/-- The expressions of that program. -/
def branchingExprs : List Expr :=
  [.define "f" ["x"]
      [.ifThen (.symbol "x") (.sequence []),
        .ifThen (.symbol "x") (.bind [("y", .number "2")] [branchingValue])],
    .call "-" [.number "3", .number "1"]]

/-- Each of the four ways through the function returns, two of them the difference and two of them
`false`. -/
theorem branching_returns :
    read branching = .ok branchingForms ∧
      Expr.routesAll [.ifThen (.symbol "x") (.sequence []),
          .ifThen (.symbol "x") (.bind [("y", .number "2")] [branchingValue])] =
        [⟨[(.symbol "x", true), (.symbol "x", true)], some branchingValue⟩,
          ⟨[(.symbol "x", true), (.symbol "x", false)], none⟩,
          ⟨[(.symbol "x", false), (.symbol "x", true)], some branchingValue⟩,
          ⟨[(.symbol "x", false), (.symbol "x", false)], none⟩] ∧
      ∃ next text program,
        resolve (.ofLibrary subtraction) branchingForms = .ok (branchingExprs, next) ∧
        render subtraction branchingExprs = .ok text ∧
        text = (Stmt.rowsAll 0 program).flatMap Row.print ∧
        List.Forall₂ (Routine.Returns subtraction) (Expr.routinesAll branchingExprs)
          (Stmt.routinesAll program) ∧
        Stmt.returnedAll program = [] := by
  have htargets : ∀ b ∈ subtraction.builtins, newline ∉ b.target := by decide
  have hread : read branching = .ok branchingForms := by
    with_unfolding_all rfl
  have hresolve : ∃ next, resolve (.ofLibrary subtraction) branchingForms =
      .ok (branchingExprs, next) := by
    rw [Scope.ofLibrary, reserved_subtraction]
    exact ⟨_, rfl⟩
  have hrender : ∃ text, render subtraction branchingExprs = .ok text := ⟨_, rfl⟩
  obtain ⟨next, hnext⟩ := hresolve
  obtain ⟨text, htext⟩ := hrender
  obtain ⟨program, -, hrows, -, hroutines, -, hreturned⟩ :=
    render_returns htargets .library hread hnext htext
  exact ⟨hread, rfl, next, text, program, hnext, htext, hrows, hroutines, hreturned⟩

end SwiftForms
