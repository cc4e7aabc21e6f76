import LiveGrid.Script.Call
import LiveGrid.Script.Grammar.Statement
import LiveGrid.Text.Quote

/-!
Contract: which syntax trees are scripts.

A script is a list of statements. All but the last assign to names or are
expressions; the last one is an expression. Expressions are built from numbers,
names that are known, arithmetic, comparisons, conditions and calls of functions.

Owns:
- the names that are known before the first statement;
- the check of every node, statement and script;
- the causes for which a text is no script, and their texts.

Of several faults in an expression the one that lies least deep is told, the first
in reading order among equals.

Does not own: the grammar, and what scripts compute.
-/

namespace LiveGrid.Script

/-- Causes for which a text is no script. -/
inductive CompileError where
  /-- The text has no syntax tree. -/
  | malformed
  | empty
  | noFinalExpression
  | forbidden (nodeName : String)
  | indirectCall
  | unknownFunction (name : String)
  | keywordArguments (function : String)
  | unknownVariable (name : String)
  | notNumber (value : Literal)
  | notPlainName
  | hiddenName (name : String)
  | functionName (name : String)
  | chainedAssignment

/-- The text of a literal that is no number. -/
def Literal.written : Literal → String
  | .whole value => Number.Decimal.numeral value
  | .real value => Number.Decimal.shortest value
  | .truth value => if value then "True" else "False"
  | .imaginary value => Number.Decimal.shortest value ++ "j"
  | .text codes => Text.quoteCodes codes
  | .bytes codes => Text.quoteBytes codes
  | .none => "None"
  | .ellipsis => "Ellipsis"

/-- The text of a cause. -/
def CompileError.message : CompileError → String
  | .malformed => "syntax error"
  | .empty => "script is empty"
  | .noFinalExpression => "script must end with an expression"
  | .forbidden nodeName => "not allowed in a script: " ++ nodeName
  | .indirectCall => "only direct function calls are allowed"
  | .unknownFunction name => "unknown function: " ++ name
  | .keywordArguments function => function ++ "() takes no keyword arguments"
  | .unknownVariable name => "unknown variable: " ++ name
  | .notNumber value => "only numbers are allowed, got " ++ value.written
  | .notPlainName => "can only assign to a plain name"
  | .hiddenName name => "names can't start with an underscore: " ++ name
  | .functionName name => "can't assign to function name: " ++ name
  | .chainedAssignment => "chained assignment is not allowed"

/-- The names of the inputs of a cell: time, index, column, row, loudness and the value that the
cell had before. -/
def inputNames : List String :=
  ["t", "i", "x", "y", "v", "a"]

/-- The constants by their names. -/
def constantTable : List (String × Float) :=
  [("PI", 3.141592653589793), ("TAU", 6.283185307179586), ("E", 2.718281828459045),
   ("PHI", 1.618033988749895)]

/-- The names that are known before the first statement. -/
def initialNames : List String :=
  inputNames ++ constantTable.map Prod.fst

/-- Whether a literal is a number or a truth value. -/
def Literal.isNumber : Literal → Bool
  | .whole _ => true
  | .real _ => true
  | .truth _ => true
  | _ => false

/-- Whether an operator between two operands belongs to the language. -/
def BinaryOperator.isAllowed : BinaryOperator → Bool
  | .add => true
  | .subtract => true
  | .multiply => true
  | .divide => true
  | .floorDivide => true
  | .modulo => true
  | .power => true
  | _ => false

/-- Whether an operator before an operand belongs to the language. -/
def UnaryOperator.isAllowed : UnaryOperator → Bool
  | .invert => false
  | _ => true

/-- Whether an operator of a comparison belongs to the language. -/
def CompareOperator.isAllowed : CompareOperator → Bool
  | .equal => true
  | .notEqual => true
  | .less => true
  | .lessEqual => true
  | .greater => true
  | .greaterEqual => true
  | _ => false

/-- Fails for a node of a kind that is not allowed. -/
def allow (isAllowed : Bool) (nodeName : String) : Except CompileError Unit :=
  if isAllowed then .ok () else .error (.forbidden nodeName)

/-- The check of a call by what is called and the number of keyword arguments. -/
def checkCall (function : Expr) (keywordCount : Nat) : Except CompileError Unit :=
  match function with
  | .name name =>
      if !isFunctionName name then .error (.unknownFunction name)
      else if keywordCount ≠ 0 then .error (.keywordArguments name)
      else .ok ()
  | _ => .error .indirectCall

/-- The check of one node, given the names that are known. -/
def checkNode (known : List String) : Node → Except CompileError Unit
  | .expr (.literal value) => if value.isNumber then .ok () else .error (.notNumber value)
  | .expr (.name name) =>
      if known.contains name || isFunctionName name then .ok ()
      else .error (.unknownVariable name)
  | .expr (.call function _ keywordCount) => checkCall function keywordCount
  | .expr (.foreign kind _) => .error (.forbidden kind.nodeName)
  | .expr _ => .ok ()
  | .unary operator => allow operator.isAllowed operator.nodeName
  | .binary operator => allow operator.isAllowed operator.nodeName
  | .bool _ => .ok ()
  | .compare operator => allow operator.isAllowed operator.nodeName

/-- The check of nodes, one after the other. -/
def checkNodes (known : List String) : List Node → Except CompileError Unit
  | [] => .ok ()
  | node :: rest => do
      checkNode known node
      checkNodes known rest

/-- The check of an expression, given the names that are known. -/
def checkExpr (known : List String) (expression : Expr) : Except CompileError Unit :=
  checkNodes known expression.nodes

/-- The name that a target stands for. -/
def checkTarget : Expr → Except CompileError String
  | .name name =>
      if name.startsWith "_" then .error (.hiddenName name)
      else if isFunctionName name then .error (.functionName name)
      else .ok name
  | _ => .error .notPlainName

/-- The check of a statement before the last one: the names that are known after it. -/
def checkStatement (known : List String) : Statement → Except CompileError (List String)
  | .assign [target] value => do
      checkExpr known value
      let name ← checkTarget target
      pure (name :: known)
  | .assign _ _ => .error .chainedAssignment
  | .augmentedAssign target operator value => do
      let name ← checkTarget target
      if !known.contains name then .error (.unknownVariable name)
      allow operator.isAllowed operator.nodeName
      checkExpr known value
      pure known
  | .expression value => do
      checkExpr known value
      pure known
  | .foreign kind => .error (.forbidden kind.nodeName)

/-- The check of statements, of which the last one has to be an expression. -/
def checkStatements (known : List String) : List Statement → Except CompileError Unit
  | [] => .error .empty
  | [.expression value] => checkExpr known value
  | [_] => .error .noFinalExpression
  | statement :: rest => do
      let known ← checkStatement known statement
      checkStatements known rest

/-- The check of a whole syntax tree. -/
def checkTree (statements : List Statement) : Except CompileError Unit :=
  checkStatements initialNames statements

end LiveGrid.Script
