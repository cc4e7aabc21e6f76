import LiveGrid.Script.Fault
import LiveGrid.Script.Syntax
import LiveGrid.Script.Value

/-!
Contract: arithmetic and comparison of plain numbers.

Whole numbers are unbounded. A quotient of whole numbers and a whole number to a
negative power are reals; reals raise a fault on division by zero and on a power
out of range. A negative base with a fractional exponent gives a complex number.
A truth value counts as zero or one.

Owns: every operation whose operands are all plain.

Does not own: operands that are machine numbers or functions.
-/

namespace LiveGrid.Script.Plain

open LiveGrid.Number

/-- The real of a whole number; a fault if it is beyond the largest real. -/
def realOfWhole (value : Int) : Except Fault Float :=
  let result := Double.ofWhole value
  if result.isInf then .error .wholeTooLarge else .ok result

/-- The quotient of whole numbers, rounded once. Zero by a negative number is a negative zero. -/
def wholeQuotient (left right : Int) : Except Fault Plain :=
  if right = 0 then .error .wholeQuotientByZero
  else
    let negative := (decide (left < 0)) != (decide (right < 0))
    let result := Double.ofQuotient negative left.natAbs right.natAbs
    if result.isInf then .error .quotientTooLarge else .ok (.real result)

/-- Whether a real is an odd whole number. -/
def isOddReal (value : Float) : Bool :=
  Double.remainder value.abs 2 == 1

/-- The power of reals. Outside of the special values, an infinite result is a fault. -/
def realPower (base exponent : Float) : Except Fault Plain :=
  if exponent == 0 then .ok (.real 1)
  else if base.isNaN then .ok (.real base)
  else if exponent.isNaN then .ok (.real (if base == 1 then 1 else exponent))
  else if exponent.isInf then
    if base.abs == 1 then .ok (.real 1)
    else if (0 < exponent) == (1 < base.abs) then .ok (.real exponent.abs)
    else .ok (.real 0)
  else if base.isInf then
    let odd := isOddReal exponent
    if 0 < exponent then .ok (.real (if odd then base else base.abs))
    else .ok (.real (if odd then Double.copySign 0 base else 0))
  else if base == 0 then
    if exponent < 0 then .error .zeroToNegativePower
    else .ok (.real (if isOddReal exponent then base else 0))
  else if base < 0 && !(Double.floor exponent == exponent) then
    .ok (.complex (ComplexDouble.power (.ofReal base) (.ofReal exponent)))
  else
    let size := base.abs.pow exponent
    let result := if base < 0 && isOddReal exponent then -size else size
    if result.isInf then .error .resultOutOfRange else .ok (.real result)

/-- The power of a whole number with a natural exponent. Bases of size up to one do not
multiply. -/
def wholePower (base : Int) (exponent : Nat) : Int :=
  if exponent = 0 then 1
  else if base = 0 then 0
  else if base = 1 then 1
  else if base = -1 then (if exponent % 2 = 0 then 1 else -1)
  else Int.pow base exponent

/-- An operation on whole numbers. -/
def wholeBinary (operator : BinaryOperator) (left right : Int) : Except Fault Plain :=
  match operator with
  | .add => .ok (.whole (left + right))
  | .subtract => .ok (.whole (left - right))
  | .multiply => .ok (.whole (left * right))
  | .divide => wholeQuotient left right
  | .floorDivide =>
      if right = 0 then .error .wholeFloorByZero else .ok (.whole (Int.fdiv left right))
  | .modulo =>
      if right = 0 then .error .wholeModuloByZero else .ok (.whole (Int.fmod left right))
  | .power =>
      if right < 0 then do
        let base ← realOfWhole left
        let exponent ← realOfWhole right
        realPower base exponent
      else .ok (.whole (wholePower left right.natAbs))
  | _ => .error (.foreignNode operator.nodeName)

/-- An operation on reals. -/
def realBinary (operator : BinaryOperator) (left right : Float) : Except Fault Plain :=
  match operator with
  | .add => .ok (.real (left + right))
  | .subtract => .ok (.real (left - right))
  | .multiply => .ok (.real (left * right))
  | .divide =>
      if right == 0 then .error .realQuotientByZero else .ok (.real (left / right))
  | .floorDivide =>
      if right == 0 then .error .realFloorByZero
      else .ok (.real (Double.floorQuotient left right))
  | .modulo =>
      if right == 0 then .error .realModuloByZero
      else .ok (.real (Double.modulo left right))
  | .power => realPower left right
  | _ => .error (.foreignNode operator.nodeName)

/-- The power of complex numbers. -/
def complexPower (base exponent : ComplexDouble) : Except Fault Plain :=
  if !exponent.isZero && base.isZero then
    if !(exponent.im == 0) || exponent.re < 0 then .error .zeroToComplexPower
    else .ok (.complex .zero)
  else
    let result := ComplexDouble.power base exponent
    if result.re.isInf || result.im.isInf then .error .complexPowerOverflow
    else .ok (.complex result)

/-- An operation on complex numbers. -/
def complexBinary (operator : BinaryOperator) (left right : ComplexDouble) :
    Except Fault Plain :=
  match operator with
  | .add => .ok (.complex (left.add right))
  | .subtract => .ok (.complex (left.subtract right))
  | .multiply => .ok (.complex (left.multiply right))
  | .divide =>
      if right.isZero then .error .complexQuotientByZero
      else .ok (.complex (left.divide right))
  | .power => complexPower left right
  | _ => .error (.foreignNode operator.nodeName)

/-- The complex number of a plain number. -/
def toComplex : Plain → Except Fault ComplexDouble
  | .truth value => .ok (.ofReal (Double.ofWhole (truthNumber value)))
  | .whole value => (realOfWhole value).map ComplexDouble.ofReal
  | .real value => .ok (.ofReal value)
  | .complex value => .ok value

/-- The real of a plain number; a complex number counts by its real part. -/
def toReal : Plain → Except Fault Float
  | .truth value => .ok (Double.ofWhole (truthNumber value))
  | .whole value => realOfWhole value
  | .real value => .ok value
  | .complex value => .ok value.re

/-- A pair of plain numbers in the widest form of the two. -/
inductive Pair where
  | wholes (left right : Int)
  | reals (left right : Float)
  | complexes (left right : ComplexDouble)

/-- The whole number of a truth value or a whole number. -/
def toWhole? : Plain → Option Int
  | .truth value => some (truthNumber value)
  | .whole value => some value
  | _ => none

/-- Whether a plain number is complex. -/
def isComplex : Plain → Bool
  | .complex _ => true
  | _ => false

/-- Brings two plain numbers into one form. -/
def pair (left right : Plain) : Except Fault Pair :=
  match left.toWhole?, right.toWhole? with
  | some left, some right => .ok (.wholes left right)
  | _, _ =>
      if left.isComplex || right.isComplex then do
        let left ← left.toComplex
        let right ← right.toComplex
        pure (.complexes left right)
      else do
        let left ← left.toReal
        let right ← right.toReal
        pure (.reals left right)

/-- Whether an operation is defined for complex numbers. -/
def takesComplex : BinaryOperator → Bool
  | .add => true
  | .subtract => true
  | .multiply => true
  | .divide => true
  | .power => true
  | _ => false

/-- An operation on plain numbers. The mark is how a fault shows the operator. -/
def binary (operator : BinaryOperator) (mark : String) (left right : Plain) :
    Except Fault Plain := do
  if (left.isComplex || right.isComplex) && !takesComplex operator then
    throw (.unsupportedOperands mark left.typeName right.typeName)
  match ← pair left right with
  | .wholes left right => wholeBinary operator left right
  | .reals left right => realBinary operator left right
  | .complexes left right => complexBinary operator left right

/-- A sign before a plain number. -/
def unary (operator : UnaryOperator) (operand : Plain) : Except Fault Plain :=
  match operator, operand with
  | .plus, .truth value => .ok (.whole (truthNumber value))
  | .plus, number => .ok number
  | .minus, .truth value => .ok (.whole (-truthNumber value))
  | .minus, .whole value => .ok (.whole (-value))
  | .minus, .real value => .ok (.real (-value))
  | .minus, .complex value => .ok (.complex value.negate)
  | operator, _ => .error (.foreignNode operator.nodeName)

/-- The order of a whole number and a real, by their exact values; none if the real is no
number. -/
def compareWholeReal (left : Int) (right : Float) : Option Ordering :=
  match Double.magnitude right with
  | .notANumber => none
  | .infinite => some (if Double.isNegative right then .gt else .lt)
  | .finite mantissa exponent =>
      let signed := if Double.isNegative right then -Int.ofNat mantissa else Int.ofNat mantissa
      if 0 ≤ exponent then some (compare left (signed * twoTo exponent.toNat))
      else some (compare (left * twoTo (-exponent).toNat) signed)

/-- The order of two doubles; none if one is no number. -/
def compareReals (left right : Float) : Option Ordering :=
  if left < right then some .lt
  else if right < left then some .gt
  else if left == right then some .eq
  else none

/-- The order of two plain numbers by their exact values. -/
def order (left right : Plain) : Option Ordering :=
  match left, right with
  | .real left, .real right => compareReals left right
  | left, right =>
      match left.toWhole?, right.toWhole? with
      | some left, some right => some (compare left right)
      | some left, none =>
          match right with
          | .real right => compareWholeReal left right
          | _ => none
      | none, some right =>
          match left with
          | .real left => (compareWholeReal right left).map Ordering.swap
          | _ => none
      | none, none => none

/-- Whether an order satisfies a comparison. What has no order is only unequal. -/
def holds (operator : CompareOperator) (order : Option Ordering) : Bool :=
  match operator, order with
  | .equal, some .eq => true
  | .notEqual, some .eq => false
  | .notEqual, _ => true
  | .less, some .lt => true
  | .lessEqual, some .lt => true
  | .lessEqual, some .eq => true
  | .greater, some .gt => true
  | .greaterEqual, some .gt => true
  | .greaterEqual, some .eq => true
  | _, _ => false

/-- Whether two plain numbers, one of them complex, are equal. -/
def complexEquals (left right : Plain) : Bool :=
  match left, right with
  | .complex left, .complex right => left.equals right
  | .complex left, right => left.im == 0 && order (.real left.re) right == some .eq
  | left, .complex right => right.im == 0 && order left (.real right.re) == some .eq
  | left, right => order left right == some .eq

/-- A comparison of plain numbers. Complex numbers are equal or not, but have no order. -/
def compare (operator : CompareOperator) (left right : Plain) : Except Fault Bool :=
  if left.isComplex || right.isComplex then
    match operator with
    | .equal => .ok (complexEquals left right)
    | .notEqual => .ok !(complexEquals left right)
    | _ => .error (.unorderable operator.mark left.typeName right.typeName)
  else .ok (holds operator (order left right))

end LiveGrid.Script.Plain
