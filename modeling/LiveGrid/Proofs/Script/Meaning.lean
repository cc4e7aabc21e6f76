import LiveGrid.Script.Evaluate

/-!
Contract: the meaning of a syntax tree as it is written.

Owns:
- the operations that an evaluation performs on values;
- the evaluation of a tree in any form that can perform them, its real literals in place;
- the double that a tree gives for the inputs of a cell.

A reading says in which form evaluations run and what happens at an operation. The order of the
parts, and which of them are left out, is the same in every reading.

Does not own: what a tree is compiled to, and readings other than the plain one.
-/

namespace LiveGrid.Script

/-! ## Operations -/

/-- What an evaluation does with values. -/
inductive Operation where
  | unary (operator : UnaryOperator) (operand : Value)
  | binary (operator : BinaryOperator) (assigns : Bool) (left right : Value)
  | compare (operator : CompareOperator) (left right : Value)
  | call (callee : Value) (arguments : List Value)
  /-- The value of the last expression becomes the double of its cell. -/
  | toCell (value : Value)

/-- The result of an operation. -/
def Operation.perform : Operation → Evaluation Value
  | .unary operator operand => Evaluation.ofExcept (Value.unary operator operand)
  | .binary operator assigns left right =>
      Evaluation.ofExcept (Value.binary operator assigns left right)
  | .compare operator left right => Evaluation.ofExcept (Value.compare operator left right)
  | .call callee arguments => callValue callee arguments
  | .toCell value =>
      Evaluation.ofExcept (value.toCell.map fun number => .machine (.double number))

/-! ## Readings -/

/-- A form in which trees are evaluated. -/
structure Reading (Action : Type → Type) where
  /-- A step that performs no operation. -/
  embed {Result : Type} : Evaluation Result → Action Result
  perform : Operation → Action Value

/-- The value of a literal of a tree; a real literal denotes a machine number. -/
def literalMeaning : Literal → Evaluation Value
  | .real value => pure (.machine (.double value))
  | other => literalValue other

namespace Reading

variable {Action : Type → Type} [Monad Action] (reading : Reading Action)

mutual

/-- The value of an expression. -/
def expr (scope : Scope) : Expr → Action Value
  | .literal value => reading.embed (literalMeaning value)
  | .name identifier => reading.embed (readName scope identifier)
  | .unary operator operand => do
      let operand ← expr scope operand
      reading.perform (.unary operator operand)
  | .binary operator left right => do
      let left ← expr scope left
      let right ← expr scope right
      reading.perform (.binary operator false left right)
  | .bool operator operands => junction scope operator operands
  | .compare first links => do
      let first ← expr scope first
      chain scope first links
  | .conditional test body otherwise => do
      let test ← expr scope test
      if test.isTrue then expr scope body else expr scope otherwise
  | .call function arguments _ => do
      let callee ← expr scope function
      let arguments ← exprs scope arguments
      reading.perform (.call callee arguments)
  | .foreign kind _ => reading.embed (throw (.foreignNode kind.nodeName))

/-- The values of expressions, one after the other. -/
def exprs (scope : Scope) : List Expr → Action (List Value)
  | [] => pure []
  | expression :: rest => do
      let value ← expr scope expression
      let values ← exprs scope rest
      pure (value :: values)

/-- The value of the first operand that decides, or else of the last one. -/
def junction (scope : Scope) (operator : BoolOperator) : List Expr → Action Value
  | [] => pure (.plain (.truth (operator == .and)))
  | [last] => expr scope last
  | expression :: rest => do
      let value ← expr scope expression
      if value.isTrue == (operator == .or) then pure value
      else junction scope operator rest

/-- The outcome of the first link that does not hold, or else of the last one. -/
def chain (scope : Scope) (left : Value) : List (CompareOperator × Expr) → Action Value
  | [] => pure left
  | [(operator, expression)] => do
      let right ← expr scope expression
      reading.perform (.compare operator left right)
  | (operator, expression) :: rest => do
      let right ← expr scope expression
      let outcome ← reading.perform (.compare operator left right)
      if outcome.isTrue then chain scope right rest else pure outcome

end

/-- The scope after a statement. -/
def statement (scope : Scope) : Statement → Action Scope
  | .assign [.name name] value => do
      let value ← reading.expr scope value
      pure (scope.assign name value)
  | .assign _ _ => reading.embed (throw (.foreignNode "Assign"))
  | .augmentedAssign (.name name) operator value => do
      let current ← reading.embed (readName scope name)
      let operand ← reading.expr scope value
      let result ← reading.perform (.binary operator true current operand)
      pure (scope.assign name result)
  | .augmentedAssign _ _ _ => reading.embed (throw (.foreignNode "AugAssign"))
  | .expression value => do
      let _ ← reading.expr scope value
      pure scope
  | .foreign kind => reading.embed (throw (.foreignNode kind.nodeName))

/-- The scope after statements. -/
def statements (scope : Scope) : List Statement → Action Scope
  | [] => pure scope
  | first :: rest => do
      let scope ← reading.statement scope first
      statements scope rest

/-- The value of the last of some statements, which is an expression. -/
def body (scope : Scope) : List Statement → Action Value
  | [] => reading.embed (throw (.foreignNode "Module"))
  | [.expression value] => reading.expr scope value
  | first :: rest => do
      let scope ← reading.statement scope first
      body scope rest

/-- The value of a tree for the inputs of a cell, before it becomes a double. -/
def tree (inputs : Inputs) (statements : List Statement) : Action Value :=
  reading.body ⟨inputs.names, standardNames⟩ statements

theorem body_cons_cons {scope : Scope} {first second : Statement} {rest : List Statement} :
    reading.body scope (first :: second :: rest) =
      reading.statement scope first >>= fun scope => reading.body scope (second :: rest) := by
  rw [body]
  simp

theorem body_append [LawfulMonad Action] {scope : Scope} {before rest : List Statement}
    (some : rest ≠ []) :
    reading.body scope (before ++ rest) =
      reading.statements scope before >>= fun scope => reading.body scope rest := by
  induction before generalizing scope with
  | nil => rw [List.nil_append, statements, pure_bind]
  | cons first others inductionHypothesis =>
      obtain ⟨second, last, split⟩ := List.exists_cons_of_ne_nil
        (List.append_ne_nil_of_right_ne_nil others some)
      rw [List.cons_append, split, body_cons_cons, ← split, statements, bind_assoc]
      exact bind_congr fun scope => inductionHypothesis

theorem junction_cons_cons {scope : Scope} {operator : BoolOperator} {first second : Expr}
    {rest : List Expr} :
    reading.junction scope operator (first :: second :: rest) =
      reading.expr scope first >>= fun value =>
        if value.isTrue == (operator == .or) then pure value
        else reading.junction scope operator (second :: rest) := by
  rw [junction]
  simp

theorem chain_cons_cons {scope : Scope} {left : Value} {operator : CompareOperator}
    {expression : Expr} {second : CompareOperator × Expr}
    {rest : List (CompareOperator × Expr)} :
    reading.chain scope left ((operator, expression) :: second :: rest) =
      reading.expr scope expression >>= fun right =>
        reading.perform (.compare operator left right) >>= fun outcome =>
          if outcome.isTrue then reading.chain scope right (second :: rest) else pure outcome := by
  rw [chain]
  simp

/-- Evaluation as cells run it. -/
def plain : Reading Evaluation where
  embed action := action
  perform := Operation.perform

end Reading

/-- The double that a tree gives for the inputs of a cell. -/
def meaning (tree : List Statement) (inputs : Inputs) : Evaluation Float := do
  let result ← Reading.plain.tree inputs tree
  Evaluation.ofExcept result.toCell

end LiveGrid.Script
