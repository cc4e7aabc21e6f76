import LiveGrid.Script.Check

/-!
Contract: the form of a checked script that is evaluated.

Owns:
- the replacement of each real literal by a name of its own, which is bound to the
  literal's double;
- the assignment of the last expression to the name of the result.

These names begin with an underscore, so a script can neither read nor assign
them.

Does not own: the check, and evaluation.
-/

namespace LiveGrid.Script

/-- The name under which the value of the last expression is kept. -/
def resultName : String := "_result"

/-- The name for the real literal with the given number among all of a script. -/
def literalName (index : Nat) : String :=
  "_k" ++ Number.Decimal.numeral index

/-- A list of hoisted literals, the last one first. -/
abbrev Hoisting := StateM (List (String × Float))

/-- A name for a real literal. -/
def hoistReal (value : Float) : Hoisting Expr := do
  let bound ← get
  let name := literalName bound.length
  set ((name, value) :: bound)
  pure (.name name)

mutual

/-- An expression with names for its real literals. -/
def hoistExpr : Expr → Hoisting Expr
  | .literal (.real value) => hoistReal value
  | .literal value => pure (.literal value)
  | .name identifier => pure (.name identifier)
  | .unary operator operand => do
      let operand ← hoistExpr operand
      pure (.unary operator operand)
  | .binary operator left right => do
      let left ← hoistExpr left
      let right ← hoistExpr right
      pure (.binary operator left right)
  | .bool operator operands => do
      let operands ← hoistAll operands
      pure (.bool operator operands)
  | .compare first links => do
      let first ← hoistExpr first
      let links ← hoistLinks links
      pure (.compare first links)
  | .conditional test body otherwise => do
      let test ← hoistExpr test
      let body ← hoistExpr body
      let otherwise ← hoistExpr otherwise
      pure (.conditional test body otherwise)
  | .call function arguments keywordCount => do
      let function ← hoistExpr function
      let arguments ← hoistAll arguments
      pure (.call function arguments keywordCount)
  | .foreign kind parts => pure (.foreign kind parts)

/-- Expressions with names for their real literals. -/
def hoistAll : List Expr → Hoisting (List Expr)
  | [] => pure []
  | expression :: rest => do
      let expression ← hoistExpr expression
      let rest ← hoistAll rest
      pure (expression :: rest)

/-- The links of a comparison with names for their real literals. -/
def hoistLinks : List (CompareOperator × Expr) → Hoisting (List (CompareOperator × Expr))
  | [] => pure []
  | (operator, expression) :: rest => do
      let expression ← hoistExpr expression
      let rest ← hoistLinks rest
      pure ((operator, expression) :: rest)

end

/-- A statement with names for its real literals. -/
def hoistStatement : Statement → Hoisting Statement
  | .assign targets value => do
      let value ← hoistExpr value
      pure (.assign targets value)
  | .augmentedAssign target operator value => do
      let value ← hoistExpr value
      pure (.augmentedAssign target operator value)
  | .expression value => do
      let value ← hoistExpr value
      pure (.expression value)
  | .foreign kind => pure (.foreign kind)

/-- Statements with names for their real literals. -/
def hoistStatements : List Statement → Hoisting (List Statement)
  | [] => pure []
  | statement :: rest => do
      let statement ← hoistStatement statement
      let rest ← hoistStatements rest
      pure (statement :: rest)

/-- The statements with the last expression assigned to the name of the result. -/
def keepResult : List Statement → List Statement
  | [] => []
  | [.expression value] => [.assign [.name resultName] value]
  | statement :: rest => statement :: keepResult rest

end LiveGrid.Script
