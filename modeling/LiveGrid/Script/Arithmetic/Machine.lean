import LiveGrid.Script.Arithmetic.Plain

/-!
Contract: arithmetic and comparison of machine numbers.

Two machine numbers meet in the narrowest kind that holds both. Whole kinds wrap
around, and division by zero gives zero there; floating point kinds follow IEEE
754 and never raise a fault. Outcomes of comparisons add and multiply by `or` and
`and`, and have no difference.

Owns:
- the common kind of two machine numbers;
- the machine number that a plain number becomes next to another one;
- every operation on machine numbers.

Does not own: functions as operands.
-/

namespace LiveGrid.Script.Machine

open LiveGrid.Number

/-- A pair of machine numbers in their common kind. -/
inductive Pair where
  | flags (left right : Bool)
  | int8s (left right : Int8)
  | int64s (left right : Int64)
  | uint64s (left right : UInt64)
  | halves (left right : Half)
  | doubles (left right : Float)
  | complexes (left right : ComplexDouble)

/-- Kinds of machine numbers. -/
inductive Kind where
  | flag
  | int8
  | int64
  | uint64
  | half
  | double
  | complex
deriving DecidableEq, Repr

/-- The kind of a machine number. -/
def kind : Machine → Kind
  | .flag _ => .flag
  | .int8 _ => .int8
  | .int64 _ => .int64
  | .uint64 _ => .uint64
  | .half _ => .half
  | .double _ => .double
  | .complex _ => .complex

/-- The narrowest kind that holds two others. Signed and unsigned wide numbers only meet in
doubles, and so do wide numbers and halves. -/
def Kind.join : Kind → Kind → Kind
  | .complex, _ => .complex
  | _, .complex => .complex
  | .double, _ => .double
  | _, .double => .double
  | .flag, other => other
  | other, .flag => other
  | .int8, .int8 => .int8
  | .int8, .int64 => .int64
  | .int64, .int8 => .int64
  | .int64, .int64 => .int64
  | .uint64, .uint64 => .uint64
  | .half, .half => .half
  | .half, .int8 => .half
  | .int8, .half => .half
  | _, _ => .double

/-- The double of a machine number; a complex number counts by its real part. -/
def toDouble : Machine → Float
  | .flag value => Double.ofWhole (truthNumber value)
  | .int8 value => Double.ofWhole value.toInt
  | .int64 value => Double.ofWhole value.toInt
  | .uint64 value => Float.ofNat value.toNat
  | .half value => value.toDouble
  | .double value => value
  | .complex value => value.re

/-- The whole number of a machine number of a whole kind. -/
def toWhole? : Machine → Option Int
  | .flag value => some (truthNumber value)
  | .int8 value => some value.toInt
  | .int64 value => some value.toInt
  | .uint64 value => some (Int.ofNat value.toNat)
  | _ => none

/-- The whole number of a machine number of a whole kind, and zero of others. -/
def wholeOrZero (number : Machine) : Int :=
  number.toWhole?.getD 0

/-- The complex number of a machine number. -/
def toComplex : Machine → ComplexDouble
  | .complex value => value
  | number => .ofReal number.toDouble

/-- The half of a machine number. -/
def toHalf : Machine → Half
  | .half value => value
  | number => .ofDouble number.toDouble

/-- Brings two machine numbers into their common kind. -/
def pair (left right : Machine) : Pair :=
  match left.kind.join right.kind with
  | .flag => .flags (left.wholeOrZero ≠ 0) (right.wholeOrZero ≠ 0)
  | .int8 => .int8s (Int8.ofInt left.wholeOrZero) (Int8.ofInt right.wholeOrZero)
  | .int64 => .int64s (Int64.ofInt left.wholeOrZero) (Int64.ofInt right.wholeOrZero)
  | .uint64 =>
      .uint64s (UInt64.ofNat left.wholeOrZero.toNat) (UInt64.ofNat right.wholeOrZero.toNat)
  | .half => .halves left.toHalf right.toHalf
  | .double => .doubles left.toDouble right.toDouble
  | .complex => .complexes left.toComplex right.toComplex

/-- The power of a whole number up to a modulus, by repeated squaring. -/
def powerModulo (modulus base : Nat) : Nat → Nat → Nat
  | 0, _ => 1
  | _ + 1, 0 => 1
  | fuel + 1, exponent + 1 =>
      let half := powerModulo modulus (base * base % modulus) fuel ((exponent + 1) / 2)
      if (exponent + 1) % 2 = 1 then base * half % modulus else half

/-- A whole number before it is cut to its width, for an operation on a whole kind. -/
def wholeResult (operator : BinaryOperator) (width : Nat) (left right : Int) :
    Except Fault Int :=
  match operator with
  | .add => .ok (left + right)
  | .subtract => .ok (left - right)
  | .multiply => .ok (left * right)
  | .floorDivide => .ok (if right = 0 then 0 else Int.fdiv left right)
  | .modulo => .ok (if right = 0 then 0 else Int.fmod left right)
  | .power =>
      if right < 0 then .error .negativeExponent
      else
        let modulus := twoTo width
        .ok (Int.ofNat (powerModulo modulus (Int.emod left modulus).toNat 65 right.toNat))
  | _ => .error (.foreignNode operator.nodeName)

/-- An operation on doubles. -/
def doubleResult (operator : BinaryOperator) (left right : Float) : Except Fault Float :=
  match operator with
  | .add => .ok (left + right)
  | .subtract => .ok (left - right)
  | .multiply => .ok (left * right)
  | .divide => .ok (left / right)
  | .floorDivide => .ok (Double.floorQuotient left right)
  | .modulo => .ok (Double.modulo left right)
  | .power => .ok (left.pow right)
  | _ => .error (.foreignNode operator.nodeName)

/-- An operation on halves: the exact operation, rounded; powers are computed in single
precision. -/
def halfResult (operator : BinaryOperator) (left right : Half) : Except Fault Half :=
  match operator with
  | .power =>
      .ok (.ofDouble (left.toDouble.toFloat32.pow right.toDouble.toFloat32).toFloat)
  | operator => (doubleResult operator left.toDouble right.toDouble).map Half.ofDouble

/-- An operation on complex numbers. They have no floored quotient. -/
def complexResult (operator : BinaryOperator) (left right : ComplexDouble) :
    Except Fault ComplexDouble :=
  match operator with
  | .add => .ok (left.add right)
  | .subtract => .ok (left.subtract right)
  | .multiply => .ok (left.multiply right)
  | .divide => .ok (left.divide right)
  | .power => .ok (left.power right)
  | .floorDivide => .error (.unsupportedInputs "floor_divide")
  | .modulo => .error (.unsupportedInputs "remainder")
  | _ => .error (.foreignNode operator.nodeName)

/-- An operation on outcomes of comparisons. Sums and products stay outcomes. -/
def flagResult (operator : BinaryOperator) (left right : Bool) : Except Fault Machine :=
  match operator with
  | .add => .ok (.flag (left || right))
  | .multiply => .ok (.flag (left && right))
  | .subtract => .error .flagDifference
  | operator =>
      (wholeResult operator 8 (truthNumber left) (truthNumber right)).map
        fun result => .int8 (Int8.ofInt result)

/-- An operation on machine numbers. Quotients of whole kinds are doubles. -/
def binary (operator : BinaryOperator) (left right : Machine) : Except Fault Machine :=
  match operator, pair left right with
  | operator, .doubles left right => (doubleResult operator left right).map .double
  | operator, .halves left right => (halfResult operator left right).map .half
  | operator, .complexes left right => (complexResult operator left right).map .complex
  | .divide, _ => .ok (.double (left.toDouble / right.toDouble))
  | operator, .flags left right => flagResult operator left right
  | operator, .int8s left right =>
      (wholeResult operator 8 left.toInt right.toInt).map
        fun result => .int8 (Int8.ofInt result)
  | operator, .int64s left right =>
      (wholeResult operator 64 left.toInt right.toInt).map
        fun result => .int64 (Int64.ofInt result)
  | operator, .uint64s left right =>
      (wholeResult operator 64 left.toNat right.toNat).map
        fun result => .uint64 (UInt64.ofInt result)

/-- The wide signed number of a whole number; a fault if it does not fit. -/
def wordOfWhole (value : Int) : Except Fault Machine :=
  if -(twoTo 63 : Int) ≤ value ∧ value < twoTo 63 then .ok (.int64 (Int64.ofInt value))
  else .error .wordTooLarge

/-- The wide unsigned number of a whole number; a fault if it does not fit. -/
def unsignedOfWhole (value : Int) : Except Fault Machine :=
  if value < 0 then .error .negativeWord
  else if value < twoTo 64 then .ok (.uint64 (UInt64.ofInt value))
  else .error .unsignedWordTooLarge

/-- The machine number that a whole number becomes next to one of a given kind. -/
def adoptWhole (kind : Kind) (value : Int) : Except Fault Machine :=
  match kind with
  | .flag => wordOfWhole value
  | .int64 => wordOfWhole value
  | .uint64 => unsignedOfWhole value
  | .int8 =>
      if -128 ≤ value ∧ value < 128 then .ok (.int8 (Int8.ofInt value))
      else .error (.outOfBounds value "int8")
  | .half => (Plain.realOfWhole value).map fun real => .half (.ofDouble real)
  | .double => (Plain.realOfWhole value).map .double
  | .complex => (Plain.realOfWhole value).map fun real => .complex (.ofReal real)

/-- The machine number that a plain number becomes next to one of a given kind. -/
def adopt (kind : Kind) : Plain → Except Fault Machine
  | .truth value => .ok (.flag value)
  | .whole value => adoptWhole kind value
  | .real value =>
      match kind with
      | .half => .ok (.half (.ofDouble value))
      | _ => .ok (.double value)
  | .complex value => .ok (.complex value)

/-- The machine number that a plain number becomes next to the operand of an operation. A
whole number beside a quotient of whole kinds becomes a double at once. -/
def adoptFor (operator : BinaryOperator) (kind : Kind) (number : Plain) :
    Except Fault Machine :=
  match operator, kind, number with
  | .divide, .flag, .whole value => (Plain.realOfWhole value).map .double
  | .divide, .int8, .whole value => (Plain.realOfWhole value).map .double
  | .divide, .int64, .whole value => (Plain.realOfWhole value).map .double
  | .divide, .uint64, .whole value => (Plain.realOfWhole value).map .double
  | _, kind, number => adopt kind number

/-- A sign before a machine number. Outcomes of comparisons have no signs. -/
def unary (operator : UnaryOperator) (operand : Machine) : Except Fault Machine :=
  match operator, operand with
  | .plus, .flag _ => .error (.noLoop "positive")
  | .plus, number => .ok number
  | .minus, .flag _ => .error .flagNegation
  | .minus, .int8 value => .ok (.int8 (-value))
  | .minus, .int64 value => .ok (.int64 (-value))
  | .minus, .uint64 value => .ok (.uint64 (-value))
  | .minus, .half value => .ok (.half (value.lift fun number => -number))
  | .minus, .double value => .ok (.double (-value))
  | .minus, .complex value => .ok (.complex value.negate)
  | operator, _ => .error (.foreignNode operator.nodeName)

/-- The order of complex numbers: by the real part, and then by the imaginary part. -/
def compareComplex (left right : ComplexDouble) : Option Ordering :=
  match Plain.compareReals left.re right.re with
  | some .eq => Plain.compareReals left.im right.im
  | other => if left.im.isNaN || right.im.isNaN then none else other

/-- The order of two machine numbers: by exact values in whole kinds, and else in their
common kind. -/
def order (left right : Machine) : Option Ordering :=
  match left.toWhole?, right.toWhole? with
  | some left, some right => some (Ord.compare left right)
  | _, _ =>
      match pair left right with
      | .complexes left right => compareComplex left right
      | .halves left right => Plain.compareReals left.toDouble right.toDouble
      | _ => Plain.compareReals left.toDouble right.toDouble

/-- The order of a machine number and a plain one. Whole numbers of fixed width compare
exactly with whole numbers of any size. -/
def orderWithPlain (left : Machine) (right : Plain) : Except Fault (Option Ordering) :=
  match left, right with
  | .int8 left, .whole right => .ok (some (Ord.compare left.toInt right))
  | .int64 left, .whole right => .ok (some (Ord.compare left.toInt right))
  | .uint64 left, .whole right => .ok (some (Ord.compare (Int.ofNat left.toNat) right))
  | left, right => (adopt left.kind right).map fun right => order left right

end LiveGrid.Script.Machine
