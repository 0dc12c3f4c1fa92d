import SwiftForms.Library.Standard
import SwiftForms.Proofs.Fallible
import SwiftForms.Proofs.Swift.Expression
import SwiftForms.Proofs.Swift.Placement

/-!
# What written values are read as

The text of a value is read back as Swift reads it. Calls with round brackets and operations in round
brackets are closed on both sides, but a comparison stands bare: where it is an operand, its own
operands come between the same brackets as the operator around it. Main statement: the text of every
value is read as its `regrouped` expression, which is the value itself exactly if no comparison is an
operand of an operator in it.
-/

namespace SwiftForms

namespace Swift

/-- A text that Swift takes as the name of a variable or a function. -/
structure IsName (name : Text) : Prop where
  /-- It is not empty. -/
  nonempty : name ≠ []
  /-- It is one word. -/
  word : ∀ g ∈ name, isWordGlyph g = true
  /-- It is no number. -/
  notNumber : isNumber name = false
  /-- It is no operator. -/
  notOperator : Operator.ofText? name = none

/-- No operator is a name. -/
theorem IsName.ne_text {name : Text} (h : IsName name) (op : Operator) : name ≠ op.text := by
  rintro rfl
  have hnone := h.notOperator
  rw [Operator.ofText?_text] at hnone
  cases hnone

/-- The name of a function in front of a bracket. -/
theorem IsName.tokens?_call {name : Text} (h : IsName name) (rest : Text) :
    tokens? (name ++ .char '(' :: rest) = (tokens? rest).map (.call name :: ·) := by
  have hstops : Text.Stops isWordGlyph (.char '(' :: rest) := Text.stops_cons rfl rest
  rw [tokens?_word h.nonempty h.word hstops, h.notOperator]
  rfl

/-- The values that can be written and whose words are spelled as words of their kind. -/
inductive IsTerm : Expr → Prop
  /-- A string. -/
  | string {body} (quoted : Reader.Quoted body) : IsTerm (.string (.char '"' :: body))
  /-- A number. -/
  | number {text} (numeral : text ∈ Numeral.pattern.matches') : IsTerm (.number text)
  /-- A variable. -/
  | symbol {name} (named : IsName name) : IsTerm (.symbol name)
  /-- An operation with its two operands. -/
  | operation {op : Operator} {left right} (leftTerm : IsTerm left) (rightTerm : IsTerm right) :
    IsTerm (.call op.text [left, right])
  /-- A call of a function. -/
  | call {name args} (named : IsName name) (each : ∀ arg ∈ args, IsTerm arg) :
    IsTerm (.call name args)

/-- What is read of a written call between the brackets in which it stands, from what is read of its
arguments. -/
def callItems? (name : Text) (parts : List (List Item)) : Option (List Item) :=
  match Operator.ofText? name, parts with
  | some op, [before, after] =>
    if op.level = .comparison then some (before ++ .operator op :: after)
    else (grouped (before ++ .operator op :: after)).map fun e => [.operand e]
  | _, _ => (parts.mapM grouped).map fun args => [.operand (.call name args)]

mutual

/-- What is read of a written value between the brackets in which it stands. -/
def items? : Expr → Option (List Item)
  | .call name args => (allItems? args).bind (callItems? name)
  | e => some [.operand e]

/-- What is read of each of some written values. -/
def allItems? : List Expr → Option (List (List Item))
  | [] => some []
  | e :: rest => do
    let first ← items? e
    let others ← allItems? rest
    return first :: others

end

/-- The expression that a written value is read as. -/
def regrouped (e : Expr) : Option Expr :=
  (items? e).bind grouped

/-- The expressions that written arguments are read as. -/
def regroupedAll (args : List Expr) : Option (List Expr) :=
  (allItems? args).bind fun parts => parts.mapM grouped

/-- Arguments are read one after the other. -/
theorem regroupedAll_cons (e : Expr) (rest : List Expr) :
    regroupedAll (e :: rest) =
      (regrouped e).bind fun first => (regroupedAll rest).map (first :: ·) := by
  rw [regroupedAll, allItems?, regroupedAll, regrouped]
  cases items? e with
  | none => rfl
  | some items =>
    cases allItems? rest with
    | none =>
      cases hgrouped : grouped items <;> simp [hgrouped]
    | some others =>
      cases hgrouped : grouped items with
      | none => simp [hgrouped]
      | some first =>
        cases hothers : others.mapM grouped <;> simp [hgrouped, hothers]

/-- What may follow a word: neither a glyph that belongs to words nor a bracket that opens. -/
def Bounded (rest : Text) : Prop :=
  ∀ g ∈ rest.head?, mark g ≠ .word ∧ mark g ≠ .opens

/-- A glyph of another kind may follow a word. -/
theorem bounded_cons (g : Glyph) (rest : Text) (h : mark g ≠ .word ∧ mark g ≠ .opens) :
    Bounded (g :: rest) := by
  rintro _ ⟨⟩
  exact h

/-- A text that is divided into tokens in front of whatever may follow a word, and what is read of
them. -/
def Spelled (text : Text) (items : Option (List Item)) : Prop :=
  ∃ tokens, (∀ rest, Bounded rest → tokens? (text ++ rest) = (tokens? rest).map (tokens ++ ·)) ∧
    ∀ s : State, run s tokens = items.map s.push

/-- A string spells itself. -/
theorem spelled_string {body : Text} (h : Reader.Quoted body) :
    Spelled (.char '"' :: body) (some [.operand (.string (.char '"' :: body))]) :=
  ⟨[.operand (.string (.char '"' :: body))], fun rest _ => tokens?_string h rest, fun _ => rfl⟩

/-- A word that is no operator spells an operand. -/
theorem spelled_word {word : Text} (nonempty : word ≠ [])
    (hword : ∀ g ∈ word, isWordGlyph g = true) (hoperator : Operator.ofText? word = none) :
    Spelled word (some [.operand (wordOperand word)]) := by
  refine ⟨[.operand (wordOperand word)], fun rest hrest => ?_, fun _ => rfl⟩
  have hstops : Text.Stops isWordGlyph rest := fun g hg => decide_eq_false (hrest g hg).1
  have hopens : rest.head? ≠ some (.char '(') := fun hhead => (hrest _ hhead).2 rfl
  rw [tokens?_word nonempty hword hstops, hoperator]
  exact if_neg hopens

/-- Two operands with an operator between them. -/
def operationText (left : Text) (op : Operator) (right : Text) : Text :=
  left ++ " " ++ op.text ++ " " ++ right

/-- What is read of two operands is read with the operator between them. -/
theorem spelled_operation {left right : Text} {before after : Option (List Item)} (op : Operator)
    (hleft : Spelled left before) (hright : Spelled right after) :
    Spelled (operationText left op right)
      (before.bind fun l => after.bind fun r => some (l ++ .operator op :: r)) := by
  obtain ⟨leftTokens, hleftTokens, hleftRun⟩ := hleft
  obtain ⟨rightTokens, hrightTokens, hrightRun⟩ := hright
  refine ⟨leftTokens ++ .operator op :: rightTokens, fun rest hrest => ?_, fun s => ?_⟩
  · have hspace : ∀ rest, Bounded (.char ' ' :: rest) := fun rest => bounded_cons _ rest (by decide)
    have htext : operationText left op right ++ rest =
        left ++ .char ' ' :: (op.text ++ .char ' ' :: (right ++ rest)) := by
      simp [operationText, Text.ofString]
    rw [htext, hleftTokens _ (hspace _), tokens?_space, tokens?_operator, hrightTokens rest hrest]
    simp [Option.map_map, Function.comp_def]
  · rw [run_append, hleftRun]
    cases before with
    | none => rfl
    | some l =>
      rw [Option.map_some, Option.bind_some, Option.bind_some, run_cons]
      change run ((s.push l).push [.operator op]) rightTokens = _
      rw [hrightRun]
      cases after <;> simp

/-- Brackets around a text make an operand of what is read of it. -/
theorem spelled_brackets {text : Text} {items : Option (List Item)} (h : Spelled text items) :
    Spelled ("(" ++ text ++ ")") ((items.bind grouped).map fun e => [.operand e]) := by
  obtain ⟨tokens, htokens, hrun⟩ := h
  refine ⟨.opens :: (tokens ++ [.closes]), fun rest _ => ?_, fun s => ?_⟩
  · have hclosing : Bounded (.char ')' :: rest) := bounded_cons _ rest (by decide)
    have htext : ("(" ++ text ++ ")" : Text) ++ rest = .char '(' :: (text ++ .char ')' :: rest) := by
      simp [Text.ofString]
    rw [htext, tokens?_opens, htokens _ hclosing, tokens?_closes]
    simp [Option.map_map, Function.comp_def]
  · rw [run_cons]
    change run ⟨⟨none, s.items⟩ :: s.frames, []⟩ (tokens ++ [.closes]) = _
    rw [run_append, hrun]
    cases items with
    | none => rfl
    | some items =>
      rw [Option.map_some, Option.bind_some, run_singleton, Option.bind_some, Option.map_map]
      rfl

/-- Something is read of every written value. -/
theorem ne_nil_of_items? {e : Expr} {items : List Item} (h : items? e = some items) : items ≠ [] := by
  cases e with
  | call name args =>
    obtain ⟨parts, -, hparts⟩ := Option.bind_eq_some_iff.mp h
    unfold callItems? at hparts
    split at hparts
    · split at hparts
      · cases hparts
        simp
      · obtain ⟨e, -, rfl⟩ := Option.map_eq_some_iff.mp hparts
        simp
    · obtain ⟨all, -, rfl⟩ := Option.map_eq_some_iff.mp hparts
      simp
  | _ =>
    cases h
    simp

/-- The tokens of arguments and of the bracket that closes them are read as the arguments. -/
theorem spelled_arguments {args : List Expr} {texts : List Text}
    (h : List.Forall₂ (fun arg text => Spelled text (items? arg)) args texts) (hne : args ≠ []) :
    ∃ tokens, (∀ rest, tokens? (Text.join "," texts ++ .char ')' :: rest) =
        (tokens? rest).map (tokens ++ ·)) ∧
      ∀ name done before frames, run ⟨⟨some (name, done), before⟩ :: frames, []⟩ tokens =
        (regroupedAll args).map fun all =>
          ⟨frames, before ++ [.operand (.call name (done ++ all))]⟩ := by
  have hclosing : ∀ rest, Bounded (.char ')' :: rest) := fun rest => bounded_cons _ rest (by decide)
  have hcomma : ∀ rest, Bounded (.char ',' :: rest) := fun rest => bounded_cons _ rest (by decide)
  induction h with
  | nil => exact absurd rfl hne
  | @cons arg text args texts hfirst hrest ih =>
    obtain ⟨tokens, htokens, hrun⟩ := hfirst
    cases hrest with
    | nil =>
      refine ⟨tokens ++ [.closes], fun rest => ?_, fun name done before frames => ?_⟩
      · rw [Text.join, htokens _ (hclosing rest), tokens?_closes]
        simp [Option.map_map, Function.comp_def]
      · rw [run_append, hrun, regroupedAll_cons, regrouped]
        cases hitems : items? arg with
        | none => rfl
        | some items =>
          have harguments : arguments? done items = (grouped items).map fun e => done ++ [e] := by
            rw [arguments?, if_neg]
            simp [ne_nil_of_items? hitems]
          rw [Option.map_some, Option.bind_some, run_singleton]
          change (arguments? done items).map _ = _
          rw [harguments]
          cases hgrouped : grouped items <;> simp [hgrouped, regroupedAll, allItems?]
    | @cons next nextText others otherTexts hnext hothers =>
      obtain ⟨laterTokens, hlaterTokens, hlaterRun⟩ := ih nofun
      refine ⟨tokens ++ .comma :: laterTokens, fun rest => ?_, fun name done before frames => ?_⟩
      · have htext : Text.join "," (text :: nextText :: otherTexts) ++ .char ')' :: rest =
            text ++ .char ',' :: (Text.join "," (nextText :: otherTexts) ++ .char ')' :: rest) := by
          simp [Text.join, Text.ofString]
        rw [htext, htokens _ (hcomma _), tokens?_comma, hlaterTokens]
        simp [Option.map_map, Function.comp_def]
      · rw [run_append, hrun, regroupedAll_cons, regrouped]
        cases hitems : items? arg with
        | none => rfl
        | some items =>
          rw [Option.map_some, Option.bind_some, run_cons]
          change ((grouped items).map _).bind _ = _
          cases hgrouped : grouped items with
          | none => simp [hgrouped]
          | some e =>
            rw [Option.map_some, Option.bind_some, hlaterRun]
            simp [hgrouped, Option.map_map, Function.comp_def]

/-- The name of a function in front of arguments in brackets spells a call. -/
theorem spelled_call {name : Text} {args : List Expr} {texts : List Text} (hname : IsName name)
    (h : List.Forall₂ (fun arg text => Spelled text (items? arg)) args texts) :
    Spelled (name ++ "(" ++ Text.join "," texts ++ ")")
      ((regroupedAll args).map fun all => [.operand (.call name all)]) := by
  have htext : ∀ rest, (name ++ "(" ++ Text.join "," texts ++ ")" : Text) ++ rest =
      name ++ .char '(' :: (Text.join "," texts ++ .char ')' :: rest) := by
    intro rest
    simp [Text.ofString]
  by_cases hne : args = []
  · subst hne
    cases h
    refine ⟨[.call name, .closes], fun rest _ => ?_, fun s => ?_⟩
    · rw [htext, hname.tokens?_call, Text.join, List.nil_append, tokens?_closes]
      simp [Option.map_map, Function.comp_def]
    · rfl
  · obtain ⟨tokens, htokens, hrun⟩ := spelled_arguments h hne
    refine ⟨.call name :: tokens, fun rest _ => ?_, fun s => ?_⟩
    · rw [htext, hname.tokens?_call, htokens]
      simp [Option.map_map, Function.comp_def]
    · rw [run_cons]
      change run ⟨⟨some (name, []), s.items⟩ :: s.frames, []⟩ tokens = _
      rw [hrun]
      simp [Option.map_map, Function.comp_def, State.push]

/-- The standard library writes an operator as Swift has it, a comparison without brackets. -/
theorem style_operator (op : Operator) :
    (Library.standard.targeted? op.text).map Builtin.style =
      some (if op.level = .comparison then .comparison else .chain) := by
  cases op <;> rfl

/-- The standard library writes a function that is no operator with brackets around its arguments. -/
theorem callText_of_name {name : Text} (h : Operator.ofText? name = none) (args : List Expr)
    (texts : List Text) :
    Render.callText .standard name args texts = .ok (name ++ "(" ++ Text.join "," texts ++ ")") := by
  have hoperators : ∀ b ∈ Library.standardBuiltins, b.style = .chain ∨ b.style = .comparison →
      Operator.ofText? b.target ≠ none := by
    decide
  have hstyle : ∀ style, (Library.standard.targeted? name).map Builtin.style = some style →
      style ≠ .chain ∧ style ≠ .comparison := by
    intro style hstyle
    obtain ⟨b, hb, rfl⟩ := Option.map_eq_some_iff.mp hstyle
    obtain ⟨hmem, htarget⟩ := Library.targeted?_eq_some_iff.mp hb
    constructor
    · exact fun hchain => hoperators b hmem (.inl hchain) (htarget ▸ h)
    · exact fun hcomparison => hoperators b hmem (.inr hcomparison) (htarget ▸ h)
  unfold Render.callText
  split
  · exact absurd rfl (hstyle _ ‹_›).1
  · exact absurd rfl (hstyle _ ‹_›).2
  · rfl

/-- An operation is written with its operator between its operands, in brackets unless it is a
comparison. -/
theorem value_operation {op : Operator} {left right : Expr} {leftText rightText : Text}
    (hleft : Render.value .standard left = .ok leftText)
    (hright : Render.value .standard right = .ok rightText) :
    Render.value .standard (.call op.text [left, right]) =
      .ok (if op.level = .comparison then operationText leftText op rightText
        else "(" ++ operationText leftText op rightText ++ ")") := by
  have hvalues : Render.values .standard [left, right] = .ok [leftText, rightText] := by
    rw [Render.values, Render.values, Render.values, hleft, hright]
    rfl
  rw [Render.value, hvalues]
  change Render.callText .standard op.text [left, right] [leftText, rightText] = _
  rw [Render.callText, style_operator]
  by_cases hlevel : op.level = .comparison
  · simp only [hlevel, if_pos, operationText]
  · simp only [hlevel, if_false, operationText, Text.join, List.append_assoc]

/-- What is read of an operation, from what is read of its operands. -/
theorem items?_operation (op : Operator) (left right : Expr) :
    items? (.call op.text [left, right]) =
      (items? left).bind fun before => (items? right).bind fun after =>
        if op.level = .comparison then some (before ++ .operator op :: after)
        else (grouped (before ++ .operator op :: after)).map fun e => [.operand e] := by
  rw [items?, allItems?, allItems?, allItems?]
  cases items? left with
  | none => rfl
  | some before =>
    cases items? right with
    | none => rfl
    | some after =>
      change callItems? op.text [before, after] = _
      unfold callItems?
      simp only [Operator.ofText?_text, Option.bind_some]

/-- What is read of a call of a function is one operand. -/
theorem items?_call {name : Text} (h : Operator.ofText? name = none) (args : List Expr) :
    items? (.call name args) = (regroupedAll args).map fun all => [.operand (.call name all)] := by
  rw [items?, regroupedAll]
  cases allItems? args with
  | none => rfl
  | some parts =>
    unfold callItems?
    simp only [h, Option.bind_some]

/-- A call of a function is read as the call of what its arguments are read as. -/
theorem regrouped_call {name : Text} (h : Operator.ofText? name = none) (args : List Expr) :
    regrouped (.call name args) = (regroupedAll args).map (.call name) := by
  rw [regrouped, items?_call h]
  cases regroupedAll args <;> rfl

/-- The text of a number starts with a digit or a minus sign. -/
theorem isNumber_of_mem_pattern {text : Text} (h : text ∈ Numeral.pattern.matches') :
    isNumber text = true := by
  obtain ⟨sign, hsign, _, hrest, rfl⟩ := Pattern.mem_mul.mp h
  rcases Pattern.mem_optional.mp hsign with rfl | hminus
  · obtain ⟨ds, hds, others, -, rfl⟩ := Pattern.mem_mul.mp hrest
    obtain ⟨g, more, rfl, hg⟩ := (Numeral.mem_repeated_digit.mp hds).exists_cons
    simp [isNumber, hg]
  · obtain ⟨g, hg, rfl⟩ := Pattern.mem_oneOf.mp hminus
    obtain rfl : g = .char '-' := by simpa [Text.ofString] using hg
    simp [isNumber]

/-- The text of a number is one word and is read as that number. -/
theorem spelled_number {text : Text} (h : text ∈ Numeral.pattern.matches') :
    Spelled text (some [.operand (.number text)]) := by
  have hword : ∀ g ∈ Pattern.alphabet Numeral.pattern, isWordGlyph g = true := by
    decide
  have hne : text ≠ [] := by
    rintro rfl
    exact absurd h (by decide)
  have hoperator : Operator.ofText? text = none := by
    cases hop : Operator.ofText? text with
    | none => rfl
    | some op =>
      rw [Operator.text_of_ofText? hop] at h
      cases op <;> exact absurd h (by decide)
  have hglyphs : ∀ g ∈ text, isWordGlyph g = true :=
    fun g hg => hword g (Pattern.mem_alphabet_of_mem h g hg)
  have hspelled := spelled_word hne hglyphs hoperator
  rw [wordOperand, isNumber_of_mem_pattern h] at hspelled
  exact hspelled

/-- Arguments are written if each of them is. -/
theorem exists_values_spelled {args : List Expr}
    (h : ∀ arg ∈ args, ∃ text, Render.value .standard arg = .ok text ∧ Spelled text (items? arg)) :
    ∃ texts, Render.values .standard args = .ok texts ∧
      List.Forall₂ (fun arg text => Spelled text (items? arg)) args texts := by
  induction args with
  | nil => exact ⟨[], rfl, .nil⟩
  | cons arg rest ih =>
    obtain ⟨⟨text, hvalue, hspelled⟩, hrest⟩ := List.forall_mem_cons.mp h
    obtain ⟨texts, hvalues, htexts⟩ := ih hrest
    refine ⟨text :: texts, ?_, .cons hspelled htexts⟩
    rw [Render.values, hvalue, hvalues]
    rfl

/-- A value is written, and its text spells what is read of it. -/
theorem exists_value_spelled {e : Expr} (h : IsTerm e) :
    ∃ text, Render.value .standard e = .ok text ∧ Spelled text (items? e) := by
  induction h with
  | string quoted => exact ⟨_, rfl, spelled_string quoted⟩
  | number numeral => exact ⟨_, rfl, spelled_number numeral⟩
  | @symbol name named =>
    have hspelled := spelled_word named.nonempty named.word named.notOperator
    rw [wordOperand, named.notNumber] at hspelled
    exact ⟨name, rfl, hspelled⟩
  | @operation op left right leftTerm rightTerm ihLeft ihRight =>
    obtain ⟨leftText, hleft, hleftSpelled⟩ := ihLeft
    obtain ⟨rightText, hright, hrightSpelled⟩ := ihRight
    refine ⟨_, value_operation hleft hright, ?_⟩
    have hspelled := spelled_operation op hleftSpelled hrightSpelled
    rw [items?_operation]
    by_cases hlevel : op.level = .comparison
    · simp only [hlevel, if_pos]
      exact hspelled
    · simp only [hlevel, if_false]
      have hbrackets := spelled_brackets hspelled
      simp only [Option.bind_assoc, Option.bind_some, Option.map_bind, Function.comp_def] at hbrackets
      exact hbrackets
  | @call name args named each ih =>
    obtain ⟨texts, hvalues, htexts⟩ := exists_values_spelled ih
    refine ⟨_, ?_, items?_call named.notOperator args ▸ spelled_call named htexts⟩
    rw [Render.value, hvalues]
    exact callText_of_name named.notOperator args texts

/-- The text of a value is read as the regrouped expression. -/
theorem exists_value_read? {e : Expr} (h : IsTerm e) :
    ∃ text, Render.value .standard e = .ok text ∧ read? text = regrouped e := by
  obtain ⟨text, hvalue, tokens, htokens, hrun⟩ := exists_value_spelled h
  refine ⟨text, hvalue, ?_⟩
  have hwhole := htokens [] nofun
  rw [List.append_nil, tokens?, Option.map_some, List.append_nil] at hwhole
  rw [read?, hwhole, regrouped]
  dsimp only [bind, Option.bind_some]
  rw [hrun]
  cases items? e <;> rfl

/-- A comparison. -/
def IsComparison (e : Expr) : Prop :=
  ∃ (op : Operator) (args : List Expr), op.level = .comparison ∧ e = .call op.text args

/-- Somewhere in an expression a comparison is an operand of an operator. -/
def HasBareComparison (e : Expr) : Prop :=
  ∃ (op : Operator) (args : List Expr), Expr.Occurs (.call op.text args) e ∧
    ∃ arg ∈ args, IsComparison arg

/-- A comparison is an operand here or in a part. -/
theorem hasBareComparison_iff {e : Expr} :
    HasBareComparison e ↔
      (∃ (op : Operator) (args : List Expr), e = .call op.text args ∧ ∃ arg ∈ args, IsComparison arg) ∨
        ∃ part ∈ e.parts, HasBareComparison part := by
  constructor
  · rintro ⟨op, args, hoccurs, hargs⟩
    cases hoccurs with
    | here => exact .inl ⟨op, args, rfl, hargs⟩
    | inside hpart h => exact .inr ⟨_, hpart, op, args, h, hargs⟩
  · rintro (⟨op, args, rfl, hargs⟩ | ⟨part, hpart, op, args, hoccurs, hargs⟩)
    · exact ⟨op, args, .here, hargs⟩
    · exact ⟨op, args, .inside hpart hoccurs, hargs⟩

/-- A comparison is an operand of a call if the call is of an operator, or else in an argument. -/
theorem hasBareComparison_call_iff {name : Text} {args : List Expr} :
    HasBareComparison (.call name args) ↔
      ((∃ op : Operator, name = op.text) ∧ ∃ arg ∈ args, IsComparison arg) ∨
        ∃ arg ∈ args, HasBareComparison arg := by
  rw [hasBareComparison_iff]
  constructor
  · rintro (⟨op, _, heq, hargs⟩ | hparts)
    · cases heq
      exact .inl ⟨⟨op, rfl⟩, hargs⟩
    · exact .inr hparts
  · rintro (⟨⟨op, rfl⟩, hargs⟩ | hparts)
    · exact .inl ⟨op, args, rfl, hargs⟩
    · exact .inr hparts

/-- What is read of an operation is grouped around all operators that stand bare in it. -/
theorem regrouped_operation (op : Operator) (left right : Expr) :
    regrouped (.call op.text [left, right]) =
      (items? left).bind fun before => (items? right).bind fun after =>
        grouped (before ++ .operator op :: after) := by
  rw [regrouped, items?_operation, Option.bind_assoc]
  congr 1
  funext before
  rw [Option.bind_assoc]
  congr 1
  funext after
  split
  · rfl
  · cases grouped (before ++ .operator op :: after) <;> rfl

/-- What is read of a value that is no comparison is one operand. -/
theorem items?_of_not_comparison {e : Expr} (h : IsTerm e) (hcomparison : ¬ IsComparison e) :
    items? e = (regrouped e).map fun read => [.operand read] := by
  cases h with
  | string quoted => rfl
  | number numeral => rfl
  | symbol named => rfl
  | @operation op left right leftTerm rightTerm =>
    have hlevel : op.level ≠ .comparison := fun hlevel => hcomparison ⟨op, _, hlevel, rfl⟩
    rw [regrouped_operation, items?_operation]
    simp only [hlevel, if_false, Option.map_bind, Function.comp_def]
  | @call name args named each =>
    rw [regrouped_call named.notOperator, items?_call named.notOperator, Option.map_map]
    rfl

/-- Something of a comparison is read as a comparison. -/
theorem comparisons_ne_nil {e : Expr} (h : IsTerm e) (hcomparison : IsComparison e) {items : List Item}
    (hitems : items? e = some items) : comparisons items ≠ [] := by
  obtain ⟨op, args, hlevel, rfl⟩ := hcomparison
  generalize hname : op.text = name at h hitems
  cases h with
  | operation leftTerm rightTerm =>
    obtain rfl := Operator.text_injective hname
    rw [items?_operation] at hitems
    obtain ⟨before, -, hitems⟩ := Option.bind_eq_some_iff.mp hitems
    obtain ⟨after, -, hitems⟩ := Option.bind_eq_some_iff.mp hitems
    rw [if_pos hlevel] at hitems
    cases hitems
    simp [hlevel]
  | call named each => exact absurd hname.symm (named.ne_text op)

/-- An operation with a comparison among its operands is not read as that operation. -/
theorem regrouped_operation_ne {op : Operator} {left right : Expr} (hleft : IsTerm left)
    (hright : IsTerm right) (h : IsComparison left ∨ IsComparison right) :
    regrouped (.call op.text [left, right]) ≠ some (.call op.text [left, right]) := by
  rw [regrouped_operation]
  intro hread
  obtain ⟨before, hbefore, hread⟩ := Option.bind_eq_some_iff.mp hread
  obtain ⟨after, hafter, hread⟩ := Option.bind_eq_some_iff.mp hread
  have hbare : comparisons before ≠ [] ∨ comparisons after ≠ [] :=
    h.imp (fun h => comparisons_ne_nil hleft h hbefore) fun h => comparisons_ne_nil hright h hafter
  rcases comparisons_of_grouped hread with hnone | ⟨other, l, r, hone, hcall⟩
  · by_cases hlevel : op.level = .comparison
    · simp [hlevel] at hnone
    · simp only [comparisons_append, comparisons_operator, hlevel, if_false,
        List.append_eq_nil_iff] at hnone
      exact hbare.elim (absurd hnone.1) (absurd hnone.2)
  · rw [Expr.call.injEq] at hcall
    obtain rfl := Operator.text_injective hcall.1
    have hlevel : op.level = .comparison := level_of_mem_comparisons (hone ▸ List.mem_singleton_self op)
    have hlength := congrArg List.length hone
    simp only [comparisons_append, comparisons_operator, hlevel, if_pos, List.length_append,
      List.length_cons, List.length_nil] at hlength
    rcases hbare with hleftBare | hrightBare
    · have hpos := List.length_pos_iff.mpr hleftBare
      omega
    · have hpos := List.length_pos_iff.mpr hrightBare
      omega

/-- An operation without comparisons among its operands is read as the operation on what they are read
as. -/
theorem regrouped_operation_eq {op : Operator} {left right : Expr} (hleft : IsTerm left)
    (hright : IsTerm right) (h : ¬ (IsComparison left ∨ IsComparison right)) :
    regrouped (.call op.text [left, right]) =
      (regrouped left).bind fun l => (regrouped right).map fun r => .call op.text [l, r] := by
  obtain ⟨hl, hr⟩ := not_or.mp h
  rw [regrouped_operation, items?_of_not_comparison hleft hl, items?_of_not_comparison hright hr]
  cases regrouped left with
  | none => rfl
  | some l =>
    cases regrouped right with
    | none => rfl
    | some r => exact grouped_operation l r op

/-- Arguments are read back exactly if each of them is. -/
theorem regroupedAll_eq_self_iff {args : List Expr} :
    regroupedAll args = some args ↔ ∀ arg ∈ args, regrouped arg = some arg := by
  induction args with
  | nil => exact iff_of_true rfl nofun
  | cons arg rest ih =>
    rw [regroupedAll_cons, List.forall_mem_cons, ← ih]
    cases regrouped arg with
    | none => simp
    | some first => cases regroupedAll rest <;> simp

/-- In an expression without parts no comparison is an operand. -/
theorem not_hasBareComparison_of_leaf {e : Expr} (h : ∀ name args, e ≠ .call name args)
    (hparts : e.parts = []) : ¬ HasBareComparison e := by
  rw [hasBareComparison_iff, hparts]
  rintro (⟨op, args, heq, -⟩ | ⟨part, hpart, -⟩)
  · exact h _ _ heq
  · cases hpart

/-- A value is read back exactly if no comparison is an operand of an operator in it. -/
theorem regrouped_eq_self_iff {e : Expr} (h : IsTerm e) :
    regrouped e = some e ↔ ¬ HasBareComparison e := by
  induction h with
  | string quoted => exact iff_of_true rfl (not_hasBareComparison_of_leaf nofun rfl)
  | number numeral => exact iff_of_true rfl (not_hasBareComparison_of_leaf nofun rfl)
  | symbol named => exact iff_of_true rfl (not_hasBareComparison_of_leaf nofun rfl)
  | @operation op left right leftTerm rightTerm ihLeft ihRight =>
    rw [hasBareComparison_call_iff]
    by_cases hbare : IsComparison left ∨ IsComparison right
    · refine iff_of_false (regrouped_operation_ne leftTerm rightTerm hbare) (not_not_intro ?_)
      exact .inl ⟨⟨op, rfl⟩, by simpa using hbare⟩
    · have hparts : ((∃ other : Operator, op.text = other.text) ∧
          ∃ arg ∈ [left, right], IsComparison arg) ∨ (∃ arg ∈ [left, right], HasBareComparison arg) ↔
          HasBareComparison left ∨ HasBareComparison right := by
        simp [hbare]
      rw [hparts, not_or, ← ihLeft, ← ihRight, regrouped_operation_eq leftTerm rightTerm hbare]
      cases regrouped left with
      | none => simp
      | some l => cases regrouped right <;> simp
  | @call name args named each ih =>
    have hoperator : ¬ ∃ op : Operator, name = op.text := by
      rintro ⟨op, htext⟩
      exact named.ne_text op htext
    have hcall : regrouped (.call name args) = some (.call name args) ↔
        regroupedAll args = some args := by
      rw [regrouped_call named.notOperator]
      cases regroupedAll args <;> simp
    rw [hcall, regroupedAll_eq_self_iff, hasBareComparison_call_iff]
    simp only [hoperator, false_and, false_or, not_exists, not_and]
    exact forall₂_congr ih

end Swift

end SwiftForms
