import LiveGrid.Proofs.Script.Language

/-!
Contract: the float fragment of the language, as a type system.

Owns:
- types of expressions: constants that are whole, floats, both as numbers, and tests;
- which expressions have which types, as scripts are written and as they are evaluated;
- scripts that only compute floats.

Names have no types of their own: in a script that only computes floats, every name that is not the
name of a function stands for a float.

Does not own: how types are found, and the values of typed expressions.
-/

namespace LiveGrid.Script

/-! ## Types -/

/-- Whether a whole number has a signed form of sixty-four binary digits. -/
def FitsWord (value : Int) : Prop := -(Number.twoTo 63 : Int) ≤ value ∧ value < Number.twoTo 63

instance {value : Int} : Decidable (FitsWord value) := inferInstanceAs (Decidable (_ ∧ _))

theorem FitsWord.natAbs_lt {value : Int} (fits : FitsWord value) :
    value.natAbs < Number.twoTo 64 := by
  obtain ⟨least, most⟩ := fits
  have halfWord : (Number.twoTo 63 : Int) = 9223372036854775808 := rfl
  have word : Number.twoTo 64 = 18446744073709551616 := rfl
  omega

/-- Types of expressions. -/
inductive ExprType where
  /-- A constant that is computed from whole literals, with its value. -/
  | whole (value : Int)
  | float
  /-- A float, or a constant that is whole. -/
  | number
  /-- Something that only matters for being true or not. -/
  | test
deriving DecidableEq, Repr

/-- The forms of a script: as it is written, and as it is evaluated, with names for its real
literals. -/
inductive Form where
  | written
  | hoisted

/-- How many arguments a function ordinarily has. -/
def Function.arity : Function → Nat
  | .rand => 0
  | .atan2 => 2
  | .min => 2
  | .max => 2
  | .power => 2
  | .hypot => 2
  | .clamp => 3
  | _ => 1

/-- The operations that constants are computed with. -/
def wholeOperation? : BinaryOperator → Option (Int → Int → Int)
  | .add => some (· + ·)
  | .subtract => some (· - ·)
  | .multiply => some (· * ·)
  | _ => none

/-- Typed expressions of a form of scripts. -/
inductive HasType (form : Form) : Expr → ExprType → Prop where
  | whole {value : Nat} (fits : FitsWord value) :
      HasType form (.literal (.whole value)) (.whole value)
  | wholePlus {operand : Expr} {value : Int} (operandTyped : HasType form operand (.whole value)) :
      HasType form (.unary .plus operand) (.whole value)
  | wholeMinus {operand : Expr} {value : Int} (operandTyped : HasType form operand (.whole value))
      (fits : FitsWord (-value)) : HasType form (.unary .minus operand) (.whole (-value))
  | wholeBinary {operator : BinaryOperator} {operation : Int → Int → Int} {left right : Expr}
      {first second : Int} (computes : wholeOperation? operator = some operation)
      (leftTyped : HasType form left (.whole first))
      (rightTyped : HasType form right (.whole second)) (fits : FitsWord (operation first second)) :
      HasType form (.binary operator left right) (.whole (operation first second))
  | real (isWritten : form = .written) (value : Float) :
      HasType form (.literal (.real value)) .float
  | name {identifier : String} (notFunction : ¬ IsFunction identifier) :
      HasType form (.name identifier) .float
  | sign {operator : UnaryOperator} {operand : Expr}
      (isSign : operator = .plus ∨ operator = .minus) (operandTyped : HasType form operand .float) :
      HasType form (.unary operator operand) .float
  | binaryFloatFirst {operator : BinaryOperator} {left right : Expr}
      (allowed : operator ∈ arithmeticOperators) (leftTyped : HasType form left .float)
      (rightTyped : HasType form right .number) : HasType form (.binary operator left right) .float
  | binaryFloatLast {operator : BinaryOperator} {left right : Expr}
      (allowed : operator ∈ arithmeticOperators) (leftTyped : HasType form left .number)
      (rightTyped : HasType form right .float) : HasType form (.binary operator left right) .float
  | call {name : String} {function : Function} {arguments : List Expr}
      (entry : functionTable.lookup name = some function)
      (count : arguments.length = function.arity)
      (argumentsTyped : ∀ argument ∈ arguments, HasType form argument .float) :
      HasType form (.call (.name name) arguments 0) .float
  | bool {operator : BoolOperator} {operands : List Expr} (some : operands ≠ [])
      (operandsTyped : ∀ operand ∈ operands, HasType form operand .float) :
      HasType form (.bool operator operands) .float
  | conditional {test body otherwise : Expr} (testTyped : HasType form test .test)
      (bodyTyped : HasType form body .float) (otherwiseTyped : HasType form otherwise .float) :
      HasType form (.conditional test body otherwise) .float
  | compare {first : Expr} {links : List (CompareOperator × Expr)} (some : links ≠ [])
      (firstTyped : HasType form first .number)
      (linksTyped : ∀ link ∈ links, HasType form link.2 .number) :
      HasType form (.compare first links) .test
  | boolTest {operator : BoolOperator} {operands : List Expr} (some : operands ≠ [])
      (operandsTyped : ∀ operand ∈ operands, HasType form operand .test) :
      HasType form (.bool operator operands) .test
  | notTest {operand : Expr} (operandTyped : HasType form operand .test) :
      HasType form (.unary .not operand) .test
  | wholeNumber {expression : Expr} {value : Int} (typed : HasType form expression (.whole value)) :
      HasType form expression .number
  | floatNumber {expression : Expr} (typed : HasType form expression .float) :
      HasType form expression .number
  | floatTest {expression : Expr} (typed : HasType form expression .float) :
      HasType form expression .test

/-- Statements whose value is a float. An operator that assigns counts as the operation on the
name. -/
inductive IsFloatStatement (form : Form) : Statement → Prop where
  | assign {targets : List Expr} {value : Expr} (valueTyped : HasType form value .float) :
      IsFloatStatement form (.assign targets value)
  | augmentedAssign {name : String} {operator : BinaryOperator} {value : Expr}
      (resultTyped : HasType form (.binary operator (.name name) value) .float) :
      IsFloatStatement form (.augmentedAssign (.name name) operator value)
  | expression {value : Expr} (valueTyped : HasType form value .float) :
      IsFloatStatement form (.expression value)

/-- Statements that only compute floats. -/
def AreFloatStatements (form : Form) (statements : List Statement) : Prop :=
  ∀ statement ∈ statements, IsFloatStatement form statement

/-- Scripts that only compute floats. -/
def IsFloatScript (tree : List Statement) : Prop := AreFloatStatements .written tree

end LiveGrid.Script
