import SwiftForms.Proofs.Swift.Vectors

/-!
# How expressions are written as statements

Expressions one after another are written so that what follows goes on behind them, or so that every way
through them returns. A single expression is a list of one. Main statement: what the renderer makes of
expressions comes about by the steps of one derivation, so that whatever is said of written statements
has one induction for both ways of writing.
-/

namespace SwiftForms

/-- The two ways of writing expressions: what follows goes on behind them, or every way through them
returns. -/
inductive Ending where
  /-- What follows goes on. -/
  | passing
  /-- Every way returns. -/
  | returning
  deriving DecidableEq, Repr

/-- What closes statements that have no value to return. -/
def Ending.closing : Ending → List Stmt
  | .passing => []
  | .returning => [.ret Render.noValue]

namespace Render

open Fallible

/-- Only strings, numbers, symbols and calls have values. -/
theorem value_cases {lib : Library} {e : Expr} {text : Text} (h : value lib e = .ok text) :
    (∃ t, e = .string t) ∨ (∃ t, e = .number t) ∨ (∃ name, e = .symbol name) ∨
      ∃ name args, e = .call name args := by
  cases e with
  | string t => exact .inl ⟨t, rfl⟩
  | number t => exact .inr (.inl ⟨t, rfl⟩)
  | symbol name => exact .inr (.inr (.inl ⟨name, rfl⟩))
  | call name args => exact .inr (.inr (.inr ⟨name, args, rfl⟩))
  | _ => cases h

/-- Expressions one after another are written as statements. -/
inductive Writes (lib : Library) : Ending → List Expr → List Stmt → Prop
  /-- No expressions have no value. -/
  | nil (ending : Ending) : Writes lib ending [] ending.closing
  /-- Something follows the first of several expressions. -/
  | cons {ending : Ending} {e next : Expr} {rest : List Expr} {first others : List Stmt} :
    Writes lib .passing [e] first → Writes lib ending (next :: rest) others →
      Writes lib ending (e :: next :: rest) (first ++ others)
  /-- A function returns, and its declaration has no value. -/
  | define {ending : Ending} {name : Text} {params : List Text} {body : List Expr} {lines : List Stmt} :
    Writes lib .returning body lines →
      Writes lib ending [.define name params body] (.function name params lines :: ending.closing)
  /-- A function that is implemented elsewhere leaves nothing. -/
  | external (name : Text) (params : List Text) (native : Option Text) :
    Writes lib .passing [.external name params native] []
  /-- A function that is implemented elsewhere leaves an empty line in front of a return. -/
  | externalReturn (name : Text) (params : List Text) (native : Option Text) :
    Writes lib .returning [.external name params native] [.blank, .ret noValue]
  /-- A conditional has no value where its branch is left out. -/
  | ifThen {ending : Ending} {test yes : Expr} {testText : Text} {lines : List Stmt} :
    value lib test = .ok testText → Writes lib ending [yes] lines →
      Writes lib ending [.ifThen test yes] (.ifThen testText lines :: ending.closing)
  /-- A conditional ends as its branches end. -/
  | ifElse {ending : Ending} {test yes no : Expr} {testText : Text} {lines others : List Stmt} :
    value lib test = .ok testText → Writes lib ending [yes] lines → Writes lib ending [no] others →
      Writes lib ending [.ifElse test yes no] [.ifElse testText lines others]
  /-- A block ends as its body ends. -/
  | bind {ending : Ending} {bound : List (Text × Expr)} {body : List Expr}
    {texts : List (Text × Text)} {lines : List Stmt} :
    bindings lib bound = .ok texts → Writes lib ending body lines →
      Writes lib ending [.bind bound body] [.block texts lines]
  /-- A sequence is written as its expressions. -/
  | sequence {ending : Ending} {body : List Expr} {lines : List Stmt} :
    Writes lib ending body lines → Writes lib ending [.sequence body] lines
  /-- A value may be followed. -/
  | value {e : Expr} {text : Text} : Render.value lib e = .ok text →
    Writes lib .passing [e] (valueStatement text)
  /-- A value is returned. -/
  | ret {e : Expr} {text : Text} : Render.value lib e = .ok text →
    Writes lib .returning [e] [.ret text]

mutual

/-- An expression as statements. -/
theorem writes_statements {lib : Library} : ∀ {e : Expr} {lines : List Stmt},
    statements lib e = .ok lines → Writes lib .passing [e] lines
  | .define _ _ _, _, h => by
    rw [statements] at h
    obtain ⟨lines, hbody, h⟩ := bind_eq_ok.mp h
    cases h
    exact .define (writes_returning hbody)
  | .external name params native, _, h => by
    cases h
    exact .external name params native
  | .ifThen test yes, _, h => by
    rw [statements] at h
    obtain ⟨testText, htest, h⟩ := bind_eq_ok.mp h
    obtain ⟨lines, hyes, h⟩ := bind_eq_ok.mp h
    cases h
    exact .ifThen htest (writes_statements hyes)
  | .ifElse test yes no, _, h => by
    rw [statements] at h
    obtain ⟨testText, htest, h⟩ := bind_eq_ok.mp h
    obtain ⟨lines, hyes, h⟩ := bind_eq_ok.mp h
    obtain ⟨others, hno, h⟩ := bind_eq_ok.mp h
    cases h
    exact .ifElse htest (writes_statements hyes) (writes_statements hno)
  | .bind bound body, _, h => by
    rw [statements] at h
    obtain ⟨texts, hbound, h⟩ := bind_eq_ok.mp h
    obtain ⟨lines, hbody, h⟩ := bind_eq_ok.mp h
    cases h
    exact .bind hbound (writes_allStatements hbody)
  | .sequence body, _, h => by
    rw [statements] at h
    exact .sequence (writes_allStatements h)
  | .string _, _, h | .number _, _, h | .symbol _, _, h | .call _ _, _, h | .vector _, _, h
  | .missing, _, h | .foreign _, _, h => by
    obtain ⟨text, htext, h⟩ := bind_eq_ok.mp h
    cases h
    exact .value htext

/-- Expressions as statements one after another. -/
theorem writes_allStatements {lib : Library} : ∀ {exprs : List Expr} {lines : List Stmt},
    allStatements lib exprs = .ok lines → Writes lib .passing exprs lines
  | [], _, h => by
    cases h
    exact .nil .passing
  | [e], _, h => by
    rw [allStatements] at h
    obtain ⟨first, hfirst, h⟩ := bind_eq_ok.mp h
    cases h
    rw [List.append_nil]
    exact writes_statements hfirst
  | e :: next :: rest, _, h => by
    rw [allStatements] at h
    obtain ⟨first, hfirst, h⟩ := bind_eq_ok.mp h
    obtain ⟨others, hothers, h⟩ := bind_eq_ok.mp h
    cases h
    exact .cons (writes_statements hfirst) (writes_allStatements hothers)

/-- An expression as statements, of which every path returns. -/
theorem writes_tail {lib : Library} : ∀ {e : Expr} {lines : List Stmt},
    tail lib e = .ok lines → Writes lib .returning [e] lines
  | .define _ _ _, _, h => by
    rw [tail] at h
    obtain ⟨lines, hbody, h⟩ := bind_eq_ok.mp h
    cases h
    exact .define (writes_returning hbody)
  | .external name params native, _, h => by
    cases h
    exact .externalReturn name params native
  | .ifThen test yes, _, h => by
    rw [tail] at h
    obtain ⟨testText, htest, h⟩ := bind_eq_ok.mp h
    obtain ⟨lines, hyes, h⟩ := bind_eq_ok.mp h
    cases h
    exact .ifThen htest (writes_tail hyes)
  | .ifElse test yes no, _, h => by
    rw [tail] at h
    obtain ⟨testText, htest, h⟩ := bind_eq_ok.mp h
    obtain ⟨lines, hyes, h⟩ := bind_eq_ok.mp h
    obtain ⟨others, hno, h⟩ := bind_eq_ok.mp h
    cases h
    exact .ifElse htest (writes_tail hyes) (writes_tail hno)
  | .bind bound body, _, h => by
    rw [tail] at h
    obtain ⟨texts, hbound, h⟩ := bind_eq_ok.mp h
    obtain ⟨lines, hbody, h⟩ := bind_eq_ok.mp h
    cases h
    exact .bind hbound (writes_returning hbody)
  | .sequence body, _, h => by
    rw [tail] at h
    exact .sequence (writes_returning h)
  | .string _, _, h | .number _, _, h | .symbol _, _, h | .call _ _, _, h | .vector _, _, h
  | .missing, _, h | .foreign _, _, h => by
    obtain ⟨text, htext, h⟩ := bind_eq_ok.mp h
    cases h
    exact .ret htext

/-- A function body. -/
theorem writes_returning {lib : Library} : ∀ {exprs : List Expr} {lines : List Stmt},
    returning lib exprs = .ok lines → Writes lib .returning exprs lines
  | [], _, h => by
    cases h
    exact .nil .returning
  | [_], _, h => writes_tail h
  | e :: next :: rest, _, h => by
    rw [returning] at h
    obtain ⟨first, hfirst, h⟩ := bind_eq_ok.mp h
    obtain ⟨others, hothers, h⟩ := bind_eq_ok.mp h
    cases h
    exact .cons (writes_statements hfirst) (writes_returning hothers)

end

end Render

end SwiftForms
