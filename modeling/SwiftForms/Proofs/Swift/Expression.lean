import SwiftForms.Proofs.Form.Word
import SwiftForms.Proofs.Swift.Precedence
import SwiftForms.Proofs.Text.Runs

/-!
# Reading Swift expressions

A Swift expression of literals, variables, calls, round brackets and operators is divided into tokens,
and the tokens are read one by one. What has been opened and not closed is kept on a stack. When a
bracket closes, what stands in it is grouped by the precedence of its operators.
-/

namespace SwiftForms.Swift

/-- The part a glyph plays in an expression, outside strings. -/
inductive Mark where
  /-- It divides words. -/
  | space
  /-- It opens a bracket. -/
  | opens
  /-- It closes a bracket. -/
  | closes
  /-- It divides arguments. -/
  | comma
  /-- It encloses a string. -/
  | quote
  /-- It belongs to a word. -/
  | word
  deriving DecidableEq, Repr

/-- The part a glyph plays in an expression, outside strings. -/
def mark : Glyph → Mark
  | .char ' ' => .space
  | .char '(' => .opens
  | .char ')' => .closes
  | .char ',' => .comma
  | .char '"' => .quote
  | _ => .word

/-- Whether a glyph belongs to a word. -/
def isWordGlyph (g : Glyph) : Bool :=
  mark g = .word

/-- The tokens of an expression. -/
inductive Token where
  /-- A literal or a variable. -/
  | operand (e : Expr)
  /-- An operator. -/
  | operator (op : Operator)
  /-- The name of a function and the bracket that opens its arguments. -/
  | call (name : Text)
  /-- A bracket that opens. -/
  | opens
  /-- A bracket that closes. -/
  | closes
  /-- A comma. -/
  | comma

/-- Whether a word is a number: it starts with a digit or a minus sign. -/
def isNumber (word : Text) : Bool :=
  word.head?.any fun g => g.isAsciiDigit || g = .char '-'

/-- The operand that a word is. -/
def wordOperand (word : Text) : Expr :=
  if isNumber word then .number word else .symbol word

/-- The tokens of a text. -/
def tokens? (t : Text) : Option (List Token) :=
  match t with
  | [] => some []
  | g :: rest =>
    match mark g with
    | .space => tokens? rest
    | .opens => (tokens? rest).map (.opens :: ·)
    | .closes => (tokens? rest).map (.closes :: ·)
    | .comma => (tokens? rest).map (.comma :: ·)
    | .quote =>
      match hclose : Reader.closeString rest with
      | none => none
      | some (body, after) =>
        have hafter : after.length ≤ rest.length := by simp [Reader.append_of_closeString hclose]
        (tokens? after).map (.operand (.string (g :: body)) :: ·)
    | .word =>
      let word := g :: rest.takeWhile isWordGlyph
      let after := rest.dropWhile isWordGlyph
      have hafter : after.length ≤ rest.length := (rest.dropWhile_suffix isWordGlyph).length_le
      match Operator.ofText? word with
      | some op => (tokens? after).map (.operator op :: ·)
      | none =>
        if after.head? = some (.char '(') then (tokens? after.tail).map (.call word :: ·)
        else (tokens? after).map (.operand (wordOperand word) :: ·)
  termination_by t.length
  decreasing_by
    · simp
    · simp
    · simp
    · simp
    · exact Nat.lt_succ_of_le hafter
    · exact Nat.lt_succ_of_le hafter
    · exact Nat.lt_succ_of_le ((List.tail_suffix after).length_le.trans hafter)
    · exact Nat.lt_succ_of_le hafter

/-- What has been opened: a bracket, or the arguments of a call of which some are read, with what
stood before it. -/
structure Frame where
  /-- The function and its arguments so far, unless a bracket was opened. -/
  call? : Option (Text × List Expr)
  /-- What stood before it. -/
  before : List Item

/-- The state of a reader: what has been opened, innermost first, and what stands after it. -/
structure State where
  /-- What has been opened. -/
  frames : List Frame
  /-- What stands after it. -/
  items : List Item

/-- A state with more operands and operators read. -/
def State.push (s : State) (items : List Item) : State :=
  ⟨s.frames, s.items ++ items⟩

/-- Reading in two parts. -/
@[simp] theorem State.push_push (s : State) (items others : List Item) :
    (s.push items).push others = s.push (items ++ others) := by
  simp [push]

/-- The arguments of a call whose last one ends. Only a call without arguments ends on nothing. -/
def arguments? (args : List Expr) (items : List Item) : Option (List Expr) :=
  if args.isEmpty ∧ items.isEmpty then some [] else (grouped items).map fun e => args ++ [e]

/-- Reads a token. -/
def step (s : State) : Token → Option State
  | .operand e => some (s.push [.operand e])
  | .operator op => some (s.push [.operator op])
  | .opens => some ⟨⟨none, s.items⟩ :: s.frames, []⟩
  | .call name => some ⟨⟨some (name, []), s.items⟩ :: s.frames, []⟩
  | .comma =>
    match s.frames with
    | ⟨some (name, args), before⟩ :: frames =>
      (grouped s.items).map fun e => ⟨⟨some (name, args ++ [e]), before⟩ :: frames, []⟩
    | _ => none
  | .closes =>
    match s.frames with
    | ⟨none, before⟩ :: frames => (grouped s.items).map fun e => ⟨frames, before ++ [.operand e]⟩
    | ⟨some (name, args), before⟩ :: frames =>
      (arguments? args s.items).map fun all => ⟨frames, before ++ [.operand (.call name all)]⟩
    | [] => none

/-- Reads tokens one after another. -/
def run (s : State) (tokens : List Token) : Option State :=
  tokens.foldlM step s

/-- Tokens are read one after another. -/
theorem run_append (s : State) (tokens others : List Token) :
    run s (tokens ++ others) = (run s tokens).bind fun next => run next others :=
  List.foldlM_append

/-- Tokens are read from the first one on. -/
theorem run_cons (s : State) (token : Token) (rest : List Token) :
    run s (token :: rest) = (step s token).bind fun next => run next rest :=
  List.foldlM_cons

/-- Reading one token is a step. -/
theorem run_singleton (s : State) (token : Token) : run s [token] = step s token := by
  rw [run_cons]
  exact Option.bind_fun_some _

/-- The expression that a text is. -/
def read? (t : Text) : Option Expr := do
  let tokens ← tokens? t
  let last ← run ⟨[], []⟩ tokens
  if last.frames.isEmpty then grouped last.items else none

/-- A blank space is no token. -/
theorem tokens?_space (rest : Text) : tokens? (.char ' ' :: rest) = tokens? rest := by
  rw [tokens?]
  rfl

/-- A bracket that opens. -/
theorem tokens?_opens (rest : Text) :
    tokens? (.char '(' :: rest) = (tokens? rest).map (.opens :: ·) := by
  rw [tokens?]
  rfl

/-- A bracket that closes. -/
theorem tokens?_closes (rest : Text) :
    tokens? (.char ')' :: rest) = (tokens? rest).map (.closes :: ·) := by
  rw [tokens?]
  rfl

/-- A comma. -/
theorem tokens?_comma (rest : Text) :
    tokens? (.char ',' :: rest) = (tokens? rest).map (.comma :: ·) := by
  rw [tokens?]
  rfl

/-- A string. -/
theorem tokens?_string {body : Text} (hbody : Reader.Quoted body) (rest : Text) :
    tokens? (.char '"' :: (body ++ rest)) =
      (tokens? rest).map (.operand (.string (.char '"' :: body)) :: ·) := by
  have hmark : mark (.char '"') = .quote := rfl
  have hclose := Reader.closeString_of_quoted hbody rest
  rw [tokens?]
  simp only [hmark]
  split
  · rename_i hnone
    rw [hclose] at hnone
    cases hnone
  · rename_i hsome
    rw [hclose] at hsome
    cases hsome
    rfl

/-- A word goes on to the next glyph of another kind. It is an operator, the name of a function in
front of a bracket, or an operand. -/
theorem tokens?_word {word rest : Text} (nonempty : word ≠ [])
    (hword : ∀ g ∈ word, isWordGlyph g = true) (hstops : Text.Stops isWordGlyph rest) :
    tokens? (word ++ rest) =
      match Operator.ofText? word with
      | some op => (tokens? rest).map (.operator op :: ·)
      | none =>
        if rest.head? = some (.char '(') then (tokens? rest.tail).map (.call word :: ·)
        else (tokens? rest).map (.operand (wordOperand word) :: ·) := by
  cases word with
  | nil => exact absurd rfl nonempty
  | cons g more =>
    obtain ⟨hg, hmore⟩ := List.forall_mem_cons.mp hword
    have hmark : mark g = .word := of_decide_eq_true hg
    rw [List.cons_append, tokens?]
    simp only [hmark, Text.takeWhile_append_of_stops hmore hstops,
      Text.dropWhile_append_of_stops hmore hstops]

/-- An operator in front of a blank space. -/
theorem tokens?_operator (op : Operator) (rest : Text) :
    tokens? (op.text ++ .char ' ' :: rest) = (tokens? rest).map (.operator op :: ·) := by
  have hstops : Text.Stops isWordGlyph (.char ' ' :: rest) := Text.stops_cons rfl rest
  rw [tokens?_word (by cases op <;> nofun) (by cases op <;> decide) hstops,
    Operator.ofText?_text, tokens?_space]

end SwiftForms.Swift
