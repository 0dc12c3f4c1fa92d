import SwiftForms.Expr.Basic

/-!
# Operator precedence in Swift

How Swift groups operands with operators between them. Multiplication and division bind tighter than
subtraction, which binds tighter than the comparisons. The operators of the first two levels group
from the left; of the comparisons only one can stand between operands that no bracket encloses. Main
statement: operands with a single operator between them are grouped around it, and operands with a
comparison among the operators are grouped around the comparison or not at all.
-/

namespace SwiftForms.Swift

/-- How tightly an operator binds. -/
inductive Level where
  /-- The level of multiplication and division. -/
  | product
  /-- The level of subtraction. -/
  | difference
  /-- The level of comparisons. -/
  | comparison
  deriving DecidableEq, Repr

/-- The operators that Swift provides for the standard library. -/
inductive Operator where
  /-- `-` -/
  | minus
  /-- `*` -/
  | times
  /-- `/` -/
  | divide
  /-- `<` -/
  | less
  /-- `>` -/
  | greater
  /-- `<=` -/
  | atMost
  /-- `>=` -/
  | atLeast
  deriving DecidableEq, Repr

namespace Operator

/-- How an operator is written. -/
def text : Operator → Text
  | .minus => "-"
  | .times => "*"
  | .divide => "/"
  | .less => "<"
  | .greater => ">"
  | .atMost => "<="
  | .atLeast => ">="

/-- How tightly an operator binds. -/
def level : Operator → Level
  | .minus => .difference
  | .times => .product
  | .divide => .product
  | _ => .comparison

/-- The operator that is written in a way. -/
def ofText? (t : Text) : Option Operator :=
  [minus, times, divide, less, greater, atMost, atLeast].find? fun op => op.text = t

/-- An operator is known by how it is written. -/
@[simp] theorem ofText?_text (op : Operator) : ofText? op.text = some op := by
  cases op <;> rfl

/-- What is taken for an operator is how the operator is written. -/
theorem text_of_ofText? {t : Text} {op : Operator} (h : ofText? t = some op) : t = op.text := by
  have htext := List.find?_some h
  exact (of_decide_eq_true htext).symm

/-- Different operators are written differently. -/
theorem text_injective {op other : Operator} (h : op.text = other.text) : op = other := by
  have hsome := congrArg ofText? h
  rw [ofText?_text, ofText?_text] at hsome
  exact Option.some.inj hsome

end Operator

/-- What stands between two brackets, or outside all of them. -/
inductive Item where
  /-- An operand. -/
  | operand (e : Expr)
  /-- An operator. -/
  | operator (op : Operator)

/-- The operators after the first operand, each with the operand that follows it. -/
def operations? : List Item → Option (List (Operator × Expr))
  | [] => some []
  | .operator op :: .operand e :: rest => (operations? rest).map ((op, e) :: ·)
  | _ => none

/-- Operands grouped around the operators of one level, from the left, and what is left to group. -/
def merge (level : Level) (first : Expr) :
    List (Operator × Expr) → Expr × List (Operator × Expr)
  | [] => (first, [])
  | (op, e) :: rest =>
    if op.level = level then merge level (.call op.text [first, e]) rest
    else
      let later := merge level e rest
      (first, (op, later.1) :: later.2)

/-- Operands with comparisons between them, of which there is one at most. -/
def compared (first : Expr) : List (Operator × Expr) → Option Expr
  | [] => some first
  | [(op, e)] => some (.call op.text [first, e])
  | _ => none

/-- The expression of operands and the operators between them. -/
def grouped : List Item → Option Expr
  | .operand e :: rest => do
    let operations ← operations? rest
    let products := merge .product e operations
    let differences := merge .difference products.1 products.2
    compared differences.1 differences.2
  | _ => none

/-- Two operands are grouped around the operator between them. -/
@[simp] theorem grouped_operation (left right : Expr) (op : Operator) :
    grouped [.operand left, .operator op, .operand right] = some (.call op.text [left, right]) := by
  cases op <;> rfl

-- `a < b - c * d - e` is `a < ((b - (c * d)) - e)`.
example (a b c d e : Expr) :
    grouped [.operand a, .operator .less, .operand b, .operator .minus, .operand c, .operator .times,
        .operand d, .operator .minus, .operand e] =
      some (.call "<" [a, .call "-" [.call "-" [b, .call "*" [c, d]], e]]) :=
  rfl

/-- The comparisons among operands and operators. -/
def comparisons (items : List Item) : List Operator :=
  items.filterMap fun
    | .operator op => if op.level = .comparison then some op else none
    | .operand _ => none

/-- The comparisons of one part come before those of the other. -/
@[simp] theorem comparisons_append (items others : List Item) :
    comparisons (items ++ others) = comparisons items ++ comparisons others :=
  List.filterMap_append

/-- An operator counts if it is a comparison. -/
@[simp] theorem comparisons_operator (op : Operator) (items : List Item) :
    comparisons (.operator op :: items) =
      if op.level = .comparison then op :: comparisons items else comparisons items := by
  by_cases h : op.level = .comparison <;> simp [comparisons, h]

/-- Operands do not count. -/
@[simp] theorem comparisons_operand (e : Expr) (items : List Item) :
    comparisons (.operand e :: items) = comparisons items :=
  rfl

/-- Only comparisons count. -/
theorem level_of_mem_comparisons {op : Operator} {items : List Item} (h : op ∈ comparisons items) :
    op.level = .comparison := by
  obtain ⟨item, -, hitem⟩ := List.mem_filterMap.mp h
  cases item with
  | operand e => cases hitem
  | operator other =>
    dsimp only at hitem
    split at hitem
    · cases hitem
      assumption
    · cases hitem

/-- The comparisons are the operators of their level. -/
theorem comparisons_of_operations? {items : List Item} {operations : List (Operator × Expr)}
    (h : operations? items = some operations) :
    comparisons items = (operations.map Prod.fst).filter (·.level = .comparison) := by
  fun_induction operations? items generalizing operations with
  | case1 =>
    cases h
    rfl
  | case2 op e rest ih =>
    obtain ⟨later, hlater, rfl⟩ := Option.map_eq_some_iff.mp h
    rw [comparisons_operator, comparisons_operand, ih hlater, List.map_cons, List.filter_cons]
    by_cases hop : op.level = .comparison <;> simp [hop]
  | case3 => cases h

/-- Grouping around the operators of one level leaves the others where they are. -/
theorem map_fst_merge (level : Level) (first : Expr) (operations : List (Operator × Expr)) :
    (merge level first operations).2.map Prod.fst =
      (operations.map Prod.fst).filter (·.level ≠ level) := by
  fun_induction merge level first operations with
  | case1 => rfl
  | case2 first op e rest hop ih => simp [ih, hop]
  | case3 first op e rest hop later ih => simp [later, ih, hop]

/-- What is grouped has no comparison, or one around which it is grouped. -/
theorem comparisons_of_grouped {items : List Item} {e : Expr} (h : grouped items = some e) :
    comparisons items = [] ∨
      ∃ op left right, comparisons items = [op] ∧ e = .call op.text [left, right] := by
  unfold grouped at h
  split at h
  · rename_i first rest
    obtain ⟨operations, hoperations, hcompared⟩ := Option.bind_eq_some_iff.mp h
    dsimp only at hcompared
    have hleft : comparisons (.operand first :: rest) =
        (merge .difference (merge .product first operations).1
          (merge .product first operations).2).2.map Prod.fst := by
      rw [comparisons_operand, comparisons_of_operations? hoperations, map_fst_merge, map_fst_merge,
        List.filter_filter]
      congr 1
      funext op
      cases op <;> rfl
    rw [hleft]
    unfold compared at hcompared
    split at hcompared
    · rename_i hnone
      rw [hnone]
      exact .inl rfl
    · rename_i op last hone
      cases hcompared
      rw [hone]
      exact .inr ⟨op, _, last, rfl, rfl⟩
    · cases hcompared
  · cases h

end SwiftForms.Swift
