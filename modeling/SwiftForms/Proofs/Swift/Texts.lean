import SwiftForms.Proofs.Resolve.Spelling
import SwiftForms.Proofs.Swift.Blocks

/-!
# The texts of written programs

A written program is made of the texts of its values, the identifiers that it declares and binds, and
the value of functions that have none. Main statement: a property of texts that the words of a resolved
program have, and that a call has if its arguments have it, belongs to all texts of the written program.
-/

namespace SwiftForms

namespace Stmt

mutual

/-- The texts that a statement is made of. An empty line is made of the empty text. -/
def texts : Stmt → List Text
  | .value text => [text]
  | .blank => [[]]
  | .ret text => [text]
  | .function name params body => name :: params ++ textsAll body
  | .ifThen test yes => test :: textsAll yes
  | .ifElse test yes no => test :: textsAll yes ++ textsAll no
  | .block bindings body => bindings.flatMap (fun b => [b.1, b.2]) ++ textsAll body

/-- The texts that statements are made of. -/
def textsAll : List Stmt → List Text
  | [] => []
  | statement :: rest => texts statement ++ textsAll rest

end

/-- The texts of statements one after another are those of the parts. -/
theorem textsAll_append (lines rest : List Stmt) :
    textsAll (lines ++ rest) = textsAll lines ++ textsAll rest :=
  gathered_append rfl (fun _ _ => rfl) lines rest

/-- The texts of a single statement. -/
theorem textsAll_singleton (statement : Stmt) : textsAll [statement] = texts statement := by
  rw [textsAll, textsAll, List.append_nil]

end Stmt

namespace Render

open Fallible

/-- A call is written in one of three ways: as a chain, as a comparison or as a call in Swift. -/
theorem callText_cases {lib : Library} {name text : Text} {args : List Expr} {texts : List Text}
    (h : callText lib name args texts = .ok text) :
    text = "(" ++ Text.join (" " ++ name ++ " ") texts ++ ")" ∨
      (∃ left right, texts = [left, right] ∧ text = left ++ " " ++ name ++ " " ++ right) ∨
        text = name ++ "(" ++ Text.join "," texts ++ ")" := by
  unfold callText at h
  split at h
  · cases h
    exact .inl rfl
  · split at h
    · cases h
      exact .inr (.inl ⟨_, _, rfl, rfl⟩)
    · cases h
  · cases h
    exact .inr (.inr rfl)

/-- A property of texts that the words of resolved programs have, and that calls inherit from their
arguments. -/
structure Inherited (lib : Library) (P : Text → Prop) : Prop where
  /-- Strings have it. -/
  string : ∀ text, Leaf.Admits .string text → P text
  /-- Numbers have it. -/
  number : ∀ text, Leaf.Admits .number text → P text
  /-- Identifiers have it. -/
  identifier : ∀ text, IsIdentifier text → P text
  /-- The value of a function that has none has it. -/
  noValue : P noValue
  /-- A call has it if its arguments have it. -/
  call : ∀ name args texts text, (Expr.call name args).IsSourced lib → (∀ t ∈ texts, P t) →
    callText lib name args texts = .ok text → P text

namespace Inherited

variable {lib : Library} {P : Text → Prop}

mutual

/-- The text of a value has an inherited property. -/
theorem value (hp : Inherited lib P) : ∀ {e : Expr} {text : Text}, e.AllSourced lib →
    Render.value lib e = .ok text → P text
  | .string _, _, hs, h => by
    cases h
    exact hp.string _ (hs _ .here)
  | .number _, _, hs, h => by
    cases h
    exact hp.number _ (hs _ .here)
  | .symbol _, _, hs, h => by
    cases h
    exact hp.identifier _ (hs _ .here)
  | .call name args, text, hs, h => by
    rw [Render.value] at h
    obtain ⟨texts, htexts, htext⟩ := bind_eq_ok.mp h
    have hargs : ∀ t ∈ texts, P t := hp.values (fun e he => hs.part he) htexts
    exact hp.call name args texts text (hs _ .here) hargs htext

/-- The texts of values have an inherited property. -/
theorem values (hp : Inherited lib P) : ∀ {exprs : List Expr} {texts : List Text},
    (∀ e ∈ exprs, e.AllSourced lib) → Render.values lib exprs = .ok texts → ∀ t ∈ texts, P t
  | [], _, _, h => by
    cases h
    exact List.forall_mem_nil _
  | e :: rest, _, hs, h => by
    rw [Render.values] at h
    obtain ⟨text, htext, h⟩ := bind_eq_ok.mp h
    obtain ⟨others, hothers, h⟩ := bind_eq_ok.mp h
    cases h
    obtain ⟨hfirst, hrest⟩ := List.forall_mem_cons.mp hs
    exact List.forall_mem_cons.mpr ⟨hp.value hfirst htext, hp.values hrest hothers⟩

end

/-- The names and the values of bindings have an inherited property. -/
theorem bindings (hp : Inherited lib P) {bound : List (Text × Expr)} {lines : List (Text × Text)}
    (hnames : ∀ b ∈ bound, IsIdentifier b.1) (hs : ∀ b ∈ bound, b.2.AllSourced lib)
    (h : Render.bindings lib bound = .ok lines) :
    ∀ t ∈ lines.flatMap (fun b => [b.1, b.2]), P t := by
  induction bound generalizing lines with
  | nil =>
    cases h
    exact List.forall_mem_nil _
  | cons b rest ih =>
    rw [Render.bindings] at h
    obtain ⟨text, htext, h⟩ := bind_eq_ok.mp h
    obtain ⟨others, hothers, h⟩ := bind_eq_ok.mp h
    cases h
    obtain ⟨hname, hnames⟩ := List.forall_mem_cons.mp hnames
    obtain ⟨hvalue, hrest⟩ := List.forall_mem_cons.mp hs
    refine List.forall_mem_cons.mpr ⟨hp.identifier _ hname, ?_⟩
    exact List.forall_mem_cons.mpr ⟨hp.value hvalue htext, ih hnames hrest hothers⟩

/-- The texts of a block have an inherited property if its bindings and its body have. -/
theorem block (hp : Inherited lib P) {bound : List (Text × Expr)} {body : List Expr}
    {lines : List (Text × Text)} {inner : List Stmt} (hs : (Expr.bind bound body).AllSourced lib)
    (hbound : Render.bindings lib bound = .ok lines) (hbody : ∀ t ∈ Stmt.textsAll inner, P t) :
    ∀ t ∈ Stmt.textsAll [.block lines inner], P t := by
  have hvalues : ∀ b ∈ bound, b.2.AllSourced lib := fun b hb =>
    hs.part (List.mem_append_left body (List.mem_map_of_mem hb))
  rw [Stmt.textsAll_singleton]
  exact List.forall_mem_append.mpr ⟨hp.bindings (hs _ .here) hvalues hbound, hbody⟩

/-- The texts of a function have an inherited property if its body has. -/
theorem function (hp : Inherited lib P) {name : Text} {params : List Text} {body : List Expr}
    {inner : List Stmt} (hs : (Expr.define name params body).AllSourced lib)
    (hbody : ∀ t ∈ Stmt.textsAll inner, P t) :
    ∀ t ∈ Stmt.textsAll [.function name params inner], P t := by
  obtain ⟨hname, hparams⟩ : (Expr.define name params body).IsSourced lib := hs _ .here
  rw [Stmt.textsAll_singleton]
  refine List.forall_mem_append.mpr ⟨List.forall_mem_cons.mpr ⟨hp.identifier _ hname, ?_⟩, hbody⟩
  exact fun param hparam => hp.identifier _ (hparams param hparam)

/-- What closes statements has an inherited property. -/
theorem close (hp : Inherited lib P) {lines : List Stmt} (h : ∀ t ∈ Stmt.textsAll lines, P t)
    (ending : Ending) : ∀ t ∈ Stmt.textsAll (lines ++ ending.closing), P t := by
  rw [Stmt.textsAll_append]
  refine List.forall_mem_append.mpr ⟨h, ?_⟩
  cases ending with
  | passing => exact List.forall_mem_nil _
  | returning => exact List.forall_mem_singleton.mpr hp.noValue

/-- A conditional with one branch has the texts of its test and of the branch. -/
theorem ifThen {test : Text} (htest : P test) {yes : List Stmt}
    (hyes : ∀ t ∈ Stmt.textsAll yes, P t) : ∀ t ∈ Stmt.textsAll [.ifThen test yes], P t := by
  rw [Stmt.textsAll_singleton]
  exact List.forall_mem_cons.mpr ⟨htest, hyes⟩

/-- A conditional with two branches has the texts of its test and of both branches. -/
theorem ifElse {test : Text} (htest : P test) {yes no : List Stmt}
    (hyes : ∀ t ∈ Stmt.textsAll yes, P t) (hno : ∀ t ∈ Stmt.textsAll no, P t) :
    ∀ t ∈ Stmt.textsAll [.ifElse test yes no], P t := by
  rw [Stmt.textsAll_singleton]
  exact List.forall_mem_append.mpr ⟨List.forall_mem_cons.mpr ⟨htest, hyes⟩, hno⟩

/-- The texts of written statements have an inherited property. -/
theorem written (hp : Inherited lib P) {ending : Ending} {exprs : List Expr} {lines : List Stmt}
    (h : Writes lib ending exprs lines) (hs : ∀ e ∈ exprs, e.AllSourced lib) :
    ∀ t ∈ Stmt.textsAll lines, P t := by
  induction h with
  | nil ending =>
    have hnone : ∀ t ∈ Stmt.textsAll [], P t := List.forall_mem_nil _
    exact hp.close hnone ending
  | cons _ _ ihFirst ihOthers =>
    obtain ⟨hfirst, hothers⟩ := List.forall_mem_cons.mp hs
    rw [Stmt.textsAll_append]
    exact List.forall_mem_append.mpr
      ⟨ihFirst (List.forall_mem_singleton.mpr hfirst), ihOthers hothers⟩
  | @define ending _ _ _ _ _ ih =>
    have hs := List.forall_mem_singleton.mp hs
    exact hp.close (hp.function hs (ih fun e he => hs.part he)) ending
  | external _ _ _ => exact List.forall_mem_nil _
  | externalReturn _ _ _ => exact (List.forall_mem_singleton.mp hs _ .here).elim
  | @ifThen ending _ _ _ _ htest _ ih =>
    obtain ⟨hsTest, hsYes⟩ := (List.forall_mem_singleton.mp hs).ifThen
    have hyes := ih (List.forall_mem_singleton.mpr hsYes)
    exact hp.close (ifThen (hp.value hsTest htest) hyes) ending
  | ifElse htest _ _ ihYes ihNo =>
    obtain ⟨hsTest, hsYes, hsNo⟩ := (List.forall_mem_singleton.mp hs).ifElse
    exact ifElse (hp.value hsTest htest) (ihYes (List.forall_mem_singleton.mpr hsYes))
      (ihNo (List.forall_mem_singleton.mpr hsNo))
  | bind hbound _ ih =>
    have hs := List.forall_mem_singleton.mp hs
    exact hp.block hs hbound (ih fun e he => hs.part (List.mem_append_right _ he))
  | sequence _ ih => exact ih fun e he => (List.forall_mem_singleton.mp hs).part he
  | value htext =>
    rw [valueStatement]
    split
    · exact List.forall_mem_nil _
    · exact List.forall_mem_singleton.mpr (hp.value (List.forall_mem_singleton.mp hs) htext)
  | ret htext =>
    exact List.forall_mem_singleton.mpr (hp.value (List.forall_mem_singleton.mp hs) htext)

end Inherited

end Render

end SwiftForms
