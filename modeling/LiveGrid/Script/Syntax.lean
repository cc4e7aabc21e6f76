/-!
Contract: syntax trees of scripts as the parser gives them, before any check.

A tree can hold more than a script may use. What lies outside the language is
kept as a node with a kind and those parts that an assignment looks into, so
that the check can name it.

Owns:
- operators, literals, expressions and statements;
- the name of every kind of node, which error texts show;
- the nodes of an expression level by level.

Does not own: which trees are scripts, and what they mean.
-/

namespace LiveGrid.Script

/-- Operators before one operand. -/
inductive UnaryOperator where
  | plus
  | minus
  | not
  | invert
deriving DecidableEq, Repr

/-- Operators between two operands. -/
inductive BinaryOperator where
  | add
  | subtract
  | multiply
  | divide
  | floorDivide
  | modulo
  | power
  | matrixMultiply
  | shiftLeft
  | shiftRight
  | bitOr
  | bitXor
  | bitAnd
deriving DecidableEq, Repr

/-- Operators that may leave their last operands unevaluated. -/
inductive BoolOperator where
  | and
  | or
deriving DecidableEq, Repr

/-- Operators of a comparison. -/
inductive CompareOperator where
  | equal
  | notEqual
  | less
  | lessEqual
  | greater
  | greaterEqual
  | is
  | isNot
  | within
  | notWithin
deriving DecidableEq, Repr

/-- Literals. A text is kept as code points, since an escape can denote one that is no
character. -/
inductive Literal where
  | whole (value : Nat)
  | real (value : Float)
  | truth (value : Bool)
  | imaginary (value : Float)
  | text (codes : List Nat)
  | bytes (codes : List Nat)
  | none
  | ellipsis

/-- Kinds of expressions outside the language. -/
inductive ForeignExpr where
  | attribute
  | subscript
  | starred
  | list
  | tuple
  | set
  | dictionary
  | listComprehension
  | setComprehension
  | dictionaryComprehension
  | generator
  | lambda
  | await
  | yield
  | yieldFrom
  | named
  | formatted
deriving DecidableEq, Repr

/-- Kinds of statements outside the language. -/
inductive ForeignStatement where
  | functionDefinition
  | asyncFunctionDefinition
  | classDefinition
  | returnValue
  | delete
  | annotatedAssign
  | forLoop
  | asyncForLoop
  | whileLoop
  | conditional
  | withBlock
  | asyncWithBlock
  | matchBlock
  | raise
  | tryBlock
  | tryGroupBlock
  | assert
  | importModules
  | importNames
  | globalNames
  | nonlocalNames
  | pass
  | break
  | continue
deriving DecidableEq, Repr

/-- Expressions. A call only keeps how many keyword arguments it has. -/
inductive Expr where
  | literal (value : Literal)
  | name (identifier : String)
  | unary (operator : UnaryOperator) (operand : Expr)
  | binary (operator : BinaryOperator) (left right : Expr)
  | bool (operator : BoolOperator) (operands : List Expr)
  | compare (first : Expr) (links : List (CompareOperator × Expr))
  | conditional (test body otherwise : Expr)
  | call (function : Expr) (arguments : List Expr) (keywordCount : Nat)
  | foreign (kind : ForeignExpr) (parts : List Expr)

instance : Inhabited Expr := ⟨.literal .none⟩

/-- Statements. -/
inductive Statement where
  | assign (targets : List Expr) (value : Expr)
  | augmentedAssign (target : Expr) (operator : BinaryOperator) (value : Expr)
  | expression (value : Expr)
  | foreign (kind : ForeignStatement)

namespace UnaryOperator

/-- The name of the operator's kind of node. -/
def nodeName : UnaryOperator → String
  | .plus => "UAdd"
  | .minus => "USub"
  | .not => "Not"
  | .invert => "Invert"

/-- The mark that is written for the operator. -/
def mark : UnaryOperator → String
  | .plus => "+"
  | .minus => "-"
  | .not => "not"
  | .invert => "~"

end UnaryOperator

namespace BinaryOperator

/-- The name of the operator's kind of node. -/
def nodeName : BinaryOperator → String
  | .add => "Add"
  | .subtract => "Sub"
  | .multiply => "Mult"
  | .divide => "Div"
  | .floorDivide => "FloorDiv"
  | .modulo => "Mod"
  | .power => "Pow"
  | .matrixMultiply => "MatMult"
  | .shiftLeft => "LShift"
  | .shiftRight => "RShift"
  | .bitOr => "BitOr"
  | .bitXor => "BitXor"
  | .bitAnd => "BitAnd"

/-- The mark that is written for the operator. -/
def mark : BinaryOperator → String
  | .add => "+"
  | .subtract => "-"
  | .multiply => "*"
  | .divide => "/"
  | .floorDivide => "//"
  | .modulo => "%"
  | .power => "**"
  | .matrixMultiply => "@"
  | .shiftLeft => "<<"
  | .shiftRight => ">>"
  | .bitOr => "|"
  | .bitXor => "^"
  | .bitAnd => "&"

end BinaryOperator

namespace CompareOperator

/-- The name of the operator's kind of node. -/
def nodeName : CompareOperator → String
  | .equal => "Eq"
  | .notEqual => "NotEq"
  | .less => "Lt"
  | .lessEqual => "LtE"
  | .greater => "Gt"
  | .greaterEqual => "GtE"
  | .is => "Is"
  | .isNot => "IsNot"
  | .within => "In"
  | .notWithin => "NotIn"

/-- The mark that is written for the operator. -/
def mark : CompareOperator → String
  | .equal => "=="
  | .notEqual => "!="
  | .less => "<"
  | .lessEqual => "<="
  | .greater => ">"
  | .greaterEqual => ">="
  | .is => "is"
  | .isNot => "is not"
  | .within => "in"
  | .notWithin => "not in"

end CompareOperator

/-- The name of a kind of node outside the language. -/
def ForeignExpr.nodeName : ForeignExpr → String
  | .attribute => "Attribute"
  | .subscript => "Subscript"
  | .starred => "Starred"
  | .list => "List"
  | .tuple => "Tuple"
  | .set => "Set"
  | .dictionary => "Dict"
  | .listComprehension => "ListComp"
  | .setComprehension => "SetComp"
  | .dictionaryComprehension => "DictComp"
  | .generator => "GeneratorExp"
  | .lambda => "Lambda"
  | .await => "Await"
  | .yield => "Yield"
  | .yieldFrom => "YieldFrom"
  | .named => "NamedExpr"
  | .formatted => "JoinedStr"

/-- The name of a kind of statement outside the language. -/
def ForeignStatement.nodeName : ForeignStatement → String
  | .functionDefinition => "FunctionDef"
  | .asyncFunctionDefinition => "AsyncFunctionDef"
  | .classDefinition => "ClassDef"
  | .returnValue => "Return"
  | .delete => "Delete"
  | .annotatedAssign => "AnnAssign"
  | .forLoop => "For"
  | .asyncForLoop => "AsyncFor"
  | .whileLoop => "While"
  | .conditional => "If"
  | .withBlock => "With"
  | .asyncWithBlock => "AsyncWith"
  | .matchBlock => "Match"
  | .raise => "Raise"
  | .tryBlock => "Try"
  | .tryGroupBlock => "TryStar"
  | .assert => "Assert"
  | .importModules => "Import"
  | .importNames => "ImportFrom"
  | .globalNames => "Global"
  | .nonlocalNames => "Nonlocal"
  | .pass => "Pass"
  | .break => "Break"
  | .continue => "Continue"

/-- The nodes of an expression: subexpressions and their operators. -/
inductive Node where
  | expr (expression : Expr)
  | unary (operator : UnaryOperator)
  | binary (operator : BinaryOperator)
  | bool (operator : BoolOperator)
  | compare (operator : CompareOperator)

/-- Levels of two trees that stand side by side, the nodes of the left one first. -/
def besides : List (List Node) → List (List Node) → List (List Node)
  | [], right => right
  | left, [] => left
  | left :: leftRest, right :: rightRest => (left ++ right) :: besides leftRest rightRest

mutual

/-- The nodes of an expression by their depth, each level in reading order. The parts of a
foreign node are not nodes. -/
def Expr.levels : Expr → List (List Node)
  | .unary operator operand =>
      [.expr (.unary operator operand)] ::
        besides [[.unary operator]] operand.levels
  | .binary operator left right =>
      [.expr (.binary operator left right)] ::
        besides left.levels (besides [[.binary operator]] right.levels)
  | .bool operator operands =>
      [.expr (.bool operator operands)] ::
        besides [[.bool operator]] (levelsOfAll operands)
  | .compare first links =>
      [.expr (.compare first links)] ::
        besides first.levels
          (besides [links.map fun link => .compare link.1] (levelsOfLinks links))
  | .conditional test body otherwise =>
      [.expr (.conditional test body otherwise)] ::
        besides test.levels (besides body.levels otherwise.levels)
  | .call function arguments keywordCount =>
      [.expr (.call function arguments keywordCount)] ::
        besides function.levels (levelsOfAll arguments)
  | .literal value => [[.expr (.literal value)]]
  | .name identifier => [[.expr (.name identifier)]]
  | .foreign kind parts => [[.expr (.foreign kind parts)]]

/-- The nodes of expressions that stand side by side. -/
def levelsOfAll : List Expr → List (List Node)
  | [] => []
  | expression :: rest => besides expression.levels (levelsOfAll rest)

/-- The nodes of the operands of a comparison's links. -/
def levelsOfLinks : List (CompareOperator × Expr) → List (List Node)
  | [] => []
  | (_, expression) :: rest => besides expression.levels (levelsOfLinks rest)

end

/-- All nodes of an expression, a level at a time. -/
def Expr.nodes (expression : Expr) : List Node :=
  expression.levels.flatten

end LiveGrid.Script
