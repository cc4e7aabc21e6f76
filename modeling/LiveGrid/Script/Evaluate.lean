import LiveGrid.Script.Hoist

/-!
Contract: compiling a text to a script, and evaluating a script for a cell.

Owns:
- the stream of random numbers and what has been drawn from it;
- the scope of a cell: local names over the names that every cell shares;
- the value of every expression, and the effect of every statement;
- the causes for which a text has no compiled script: it is refused, or the compiler breaks off;
- the compiled script, and its value for the six inputs of a cell.

Evaluation goes from left to right. A cell starts with a fresh scope; only the
stream of random numbers goes on from cell to cell.

A name is a constant only as it is written, so that a target may be written with
other letters that stand for a constant. The check accepts it, and the compiler then
has no way to represent it: it breaks off instead of refusing the text.

Does not own: the grid.
-/

namespace LiveGrid

namespace Script

/-- An endless stream of random numbers, and how many were drawn. -/
structure RandomStream where
  number : Nat → Float
  drawn : Nat := 0

/-- The next random number. -/
def RandomStream.draw (stream : RandomStream) : Float × RandomStream :=
  (stream.number stream.drawn, { stream with drawn := stream.drawn + 1 })

/-- Evaluation: it draws random numbers and gives a result or a fault. -/
abbrev Evaluation := ExceptT Fault (StateM RandomStream)

/-- A result or a fault that no random number decides. -/
def Evaluation.ofExcept {α : Type} (result : Except Fault α) : Evaluation α :=
  fun stream => (result, stream)

/-- A random number of the stream. -/
def drawRandom : Evaluation Value :=
  fun stream =>
    let (number, stream) := stream.draw
    (.ok (.machine (.double number)), stream)

/-- Names with their values: those of a cell, and those that all cells share. -/
structure Scope where
  locals : List (String × Value)
  shared : List (String × Value)

/-- The value of a name; a name of the cell hides a shared one. -/
def Scope.lookup? (scope : Scope) (name : String) : Option Value :=
  match scope.locals.lookup name with
  | some value => some value
  | none => scope.shared.lookup name

/-- The scope with a value for a name of the cell. -/
def Scope.assign (scope : Scope) (name : String) (value : Value) : Scope :=
  { scope with locals := (name, value) :: scope.locals }

/-- The value of a name, which has to have one. -/
def readName (scope : Scope) (name : String) : Evaluation Value :=
  match scope.lookup? name with
  | some value => pure value
  | none => throw (.unboundName name)

/-- The value of a literal. -/
def literalValue : Literal → Evaluation Value
  | .whole value => pure (.plain (.whole (Int.ofNat value)))
  | .real value => pure (.plain (.real value))
  | .truth value => pure (.plain (.truth value))
  | _ => throw (.foreignNode "Constant")

/-- The result of a call of a value. -/
def callValue (callee : Value) (arguments : List Value) : Evaluation Value :=
  match callee with
  | .function .rand =>
      if arguments.isEmpty then drawRandom
      else Evaluation.ofExcept (Call.apply .rand arguments)
  | .function function => Evaluation.ofExcept (Call.apply function arguments)
  | other => throw (.notCallable other.typeName)

mutual

/-- The value of an expression. -/
def evaluateExpr (scope : Scope) : Expr → Evaluation Value
  | .literal value => literalValue value
  | .name identifier => readName scope identifier
  | .unary operator operand => do
      let operand ← evaluateExpr scope operand
      Evaluation.ofExcept (Value.unary operator operand)
  | .binary operator left right => do
      let left ← evaluateExpr scope left
      let right ← evaluateExpr scope right
      Evaluation.ofExcept (Value.binary operator false left right)
  | .bool operator operands => evaluateOperands scope operator operands
  | .compare first links => do
      let first ← evaluateExpr scope first
      evaluateLinks scope first links
  | .conditional test body otherwise => do
      let test ← evaluateExpr scope test
      if test.isTrue then evaluateExpr scope body else evaluateExpr scope otherwise
  | .call function arguments _ => do
      let callee ← evaluateExpr scope function
      let arguments ← evaluateAll scope arguments
      callValue callee arguments
  | .foreign kind _ => throw (.foreignNode kind.nodeName)

/-- The values of expressions, one after the other. -/
def evaluateAll (scope : Scope) : List Expr → Evaluation (List Value)
  | [] => pure []
  | expression :: rest => do
      let value ← evaluateExpr scope expression
      let values ← evaluateAll scope rest
      pure (value :: values)

/-- The value of the first operand that decides, or else of the last one. -/
def evaluateOperands (scope : Scope) (operator : BoolOperator) :
    List Expr → Evaluation Value
  | [] => pure (.plain (.truth (operator == .and)))
  | [last] => evaluateExpr scope last
  | expression :: rest => do
      let value ← evaluateExpr scope expression
      if value.isTrue == (operator == .or) then pure value
      else evaluateOperands scope operator rest

/-- The outcome of the first link that does not hold, or else of the last one. -/
def evaluateLinks (scope : Scope) (left : Value) :
    List (CompareOperator × Expr) → Evaluation Value
  | [] => pure left
  | [(operator, expression)] => do
      let right ← evaluateExpr scope expression
      Evaluation.ofExcept (Value.compare operator left right)
  | (operator, expression) :: rest => do
      let right ← evaluateExpr scope expression
      let outcome ← Evaluation.ofExcept (Value.compare operator left right)
      if outcome.isTrue then evaluateLinks scope right rest else pure outcome

end

/-- The scope after a statement. -/
def runStatement (scope : Scope) : Statement → Evaluation Scope
  | .assign [.name name] value => do
      let value ← evaluateExpr scope value
      pure (scope.assign name value)
  | .assign _ _ => throw (.foreignNode "Assign")
  | .augmentedAssign (.name name) operator value => do
      let current ← readName scope name
      let operand ← evaluateExpr scope value
      let result ← Evaluation.ofExcept (Value.binary operator true current operand)
      pure (scope.assign name result)
  | .augmentedAssign _ _ _ => throw (.foreignNode "AugAssign")
  | .expression value => do
      let _ ← evaluateExpr scope value
      pure scope
  | .foreign kind => throw (.foreignNode kind.nodeName)

/-- The scope after statements. -/
def runStatements (scope : Scope) : List Statement → Evaluation Scope
  | [] => pure scope
  | statement :: rest => do
      let scope ← runStatement scope statement
      runStatements scope rest

/-- The names that the cells of all scripts share: constants and functions. -/
def standardNames : List (String × Value) :=
  constantTable.map (fun (name, value) => (name, .machine (.double value))) ++
    functionTable.map fun (name, function) => (name, .function function)

end Script

/-- A compiled script: its text, the statements that are run for a cell, and the names that all
cells share. -/
structure Script where
  source : String
  statements : List Script.Statement
  shared : List (String × Script.Value)

namespace Script

/-- The script of a syntax tree that has been checked. -/
def ofTree (source : String) (tree : List Statement) : Script :=
  let (statements, literals) := (hoistStatements (keepResult tree)).run []
  { source := source
    statements := statements
    shared := standardNames ++
      literals.reverse.map fun (name, value) => (name, .machine (.double value)) }

/-- The constants that no target can be named after. -/
def reservedNames : List String := ["None", "True", "False"]

/-- A target that stands for a constant. -/
structure ReservedTarget where
  name : String
deriving DecidableEq, Repr

/-- The text of a target that stands for a constant. -/
def ReservedTarget.message (target : ReservedTarget) : String :=
  "identifier field can't represent '" ++ target.name ++ "' constant"

/-- The first target that stands for a constant. A name is known only after it was assigned to, so
that plain assignments come first. -/
def reservedTarget? (tree : List Statement) : Option ReservedTarget :=
  tree.findSome? fun
    | .assign [.name name] _ => if reservedNames.contains name then some ⟨name⟩ else none
    | _ => none

/-- Why a text has no compiled script: it is refused, or the compiler breaks off. -/
inductive CompileFault where
  | refused (cause : CompileError)
  | reserved (target : ReservedTarget)

/-- Compiles a syntax tree. -/
def compileTree (source : String) (tree : List Statement) : Except CompileFault Script :=
  match checkTree tree, reservedTarget? tree with
  | .error cause, _ => .error (.refused cause)
  | .ok (), some target => .error (.reserved target)
  | .ok (), none => .ok (ofTree source tree)

/-- Compiles a text. -/
def compile (source : String) : Except CompileFault Script :=
  match Grammar.parse? source with
  | none => .error (.refused .malformed)
  | some tree => compileTree source tree

/-- The six inputs of a cell. -/
structure Inputs where
  time : Float
  index : Float
  column : Float
  row : Float
  loudness : Float
  previous : Float

/-- The names of a cell before its first statement. -/
def Inputs.names (inputs : Inputs) : List (String × Value) :=
  [("t", .machine (.double inputs.time)), ("i", .machine (.double inputs.index)),
   ("x", .machine (.double inputs.column)), ("y", .machine (.double inputs.row)),
   ("v", .machine (.double inputs.loudness)), ("a", .machine (.double inputs.previous))]

/-- The double that a script gives for the inputs of a cell. -/
def evaluate (script : Script) (inputs : Inputs) : Evaluation Float := do
  let scope ← runStatements ⟨inputs.names, script.shared⟩ script.statements
  let result ← readName ⟨scope.locals, []⟩ resultName
  Evaluation.ofExcept result.toCell

end Script

end LiveGrid
