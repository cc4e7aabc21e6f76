import LiveGrid.Script.Arithmetic.Machine

/-!
Contract: operators on values of any family.

Owns:
- which family computes: plain numbers among themselves, machine numbers else;
- functions as operands, which only compare for identity;
- the operand that a fault shows first when the right one decides.

Does not own: calls, names, and operators that may skip an operand.
-/

namespace LiveGrid.Script.Value

open LiveGrid.Number

/-- How a fault shows an operator between two values. The power is shown with the function of
the same meaning, and an operator of an assignment with its equals sign. -/
def operatorMark (operator : BinaryOperator) (assigns : Bool) : String :=
  if assigns then operator.mark ++ "="
  else
    match operator with
    | .power => "** or pow()"
    | other => other.mark

/-- An operation with a function among the operands, which is always a fault. Beside a machine
number the operator of an assignment is shown without its equals sign. -/
def functionOperand (operator : BinaryOperator) (assigns : Bool) (left right : Value) :
    Fault :=
  let meetsMachine :=
    match left, right with
    | .machine _, _ => true
    | _, .machine _ => true
    | _, _ => false
  .unsupportedOperands (operatorMark operator (assigns && !meetsMachine))
    left.plainTypeName right.plainTypeName

/-- Whether a complex plain number takes a double beside it as a plain real. -/
def keepsPlain : BinaryOperator → Bool
  | .add => true
  | .subtract => true
  | .multiply => true
  | .divide => true
  | .power => true
  | _ => false

/-- An operation on two values. -/
def binary (operator : BinaryOperator) (assigns : Bool) (left right : Value) :
    Except Fault Value :=
  match left, right with
  | .plain first, .plain second =>
      (Plain.binary operator (operatorMark operator assigns) first second).map .plain
  | .machine first, .machine second => (Machine.binary operator first second).map .machine
  | .machine first, .plain second => do
      let second ← Machine.adoptFor operator first.kind second
      (Machine.binary operator first second).map .machine
  | .plain (.complex first), .machine (.double second) =>
      if keepsPlain operator then
        (Plain.binary operator (operatorMark operator assigns) (.complex first)
          (.real second)).map .plain
      else (Machine.binary operator (.complex first) (.double second)).map .machine
  | .plain first, .machine second => do
      let first ← Machine.adoptFor operator second.kind first
      (Machine.binary operator first second).map .machine
  | left, right => .error (functionOperand operator assigns left right)

/-- A sign before a value, or its denial. -/
def unary (operator : UnaryOperator) (operand : Value) : Except Fault Value :=
  match operator, operand with
  | .not, value => .ok (.plain (.truth !value.isTrue))
  | operator, .plain number => (Plain.unary operator number).map .plain
  | operator, .machine number => (Machine.unary operator number).map .machine
  | operator, .function own => .error (.unsupportedOperand operator.mark own.typeName)

/-- The comparison that holds when the operands change places. -/
def swapped : CompareOperator → CompareOperator
  | .less => .greater
  | .lessEqual => .greaterEqual
  | .greater => .less
  | .greaterEqual => .lessEqual
  | other => other

/-- Whether a comparison asks for equality or inequality only, and for which. -/
def equalityOf? : CompareOperator → Option Bool
  | .equal => some true
  | .notEqual => some false
  | _ => none

/-- A comparison of two values. Machine numbers give machine outcomes; functions are equal only
to themselves, and have no order. -/
def compare (operator : CompareOperator) (left right : Value) : Except Fault Value :=
  match left, right with
  | .plain first, .plain second =>
      (Plain.compare operator first second).map fun result => .plain (.truth result)
  | .machine first, .machine second =>
      .ok (.machine (.flag (Plain.holds operator (Machine.order first second))))
  | .machine first, .plain second =>
      (Machine.orderWithPlain first second).map
        fun order => .machine (.flag (Plain.holds operator order))
  | .plain (.complex first), .machine (.double second) =>
      match equalityOf? operator with
      | some wanted =>
          .ok (.plain (.truth (Plain.complexEquals (.complex first) (.real second) == wanted)))
      | none =>
          .ok (.machine (.flag (Plain.holds operator
            (Machine.order (.complex first) (.double second)))))
  | .plain first, .machine second =>
      (Machine.orderWithPlain second first).map
        fun order => .machine (.flag (Plain.holds (swapped operator) order))
  | .function first, .function second =>
      match equalityOf? operator with
      | some wanted => .ok (.plain (.truth ((first == second) == wanted)))
      | none => .error (.unorderable operator.mark first.typeName second.typeName)
  | .machine first, .function second =>
      match equalityOf? operator with
      | some wanted => .ok (.machine (.flag !wanted))
      | none => .error (.unorderable operator.mark first.plainTypeName second.typeName)
  | .function first, .machine second =>
      match equalityOf? operator with
      | some wanted => .ok (.machine (.flag !wanted))
      | none =>
          .error (.unorderable (swapped operator).mark second.plainTypeName first.typeName)
  | left, right =>
      match equalityOf? operator with
      | some wanted => .ok (.plain (.truth !wanted))
      | none => .error (.unorderable operator.mark left.typeName right.typeName)

/-- The double that a cell gets from a value. -/
def toCell : Value → Except Fault Float
  | .plain (.complex _) => .error (.notReal "complex")
  | .plain number => number.toReal
  | .machine number => .ok number.toDouble
  | .function own => .error (.notReal own.typeName)

end LiveGrid.Script.Value
